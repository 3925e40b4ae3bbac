import Alknet.Code.Config.Forwarding

/-!
# `channel_open_direct_tcpip`

The two handlers of a `direct-tcpip` open: `ServerHandler` of `server/handler.rs` and `SshHandler`
of `interface/ssh.rs`. What an open starts in the background is part of its result.
-/

open Alknet.Rust

namespace Alknet

inductive ProxyMode where
  | Direct
  | Socks5 (addr : SocketAddr)
  | HttpConnect (addr : SocketAddr)
deriving DecidableEq

inductive Spawned where
  | proxy (target_host : String) (target_port : UInt32) (mode : ProxyMode)
  | bridge (identity : Option Identity)
  | handle_channel

structure Opened where
  accepted : Bool
  spawned : Option Spawned

def refused : Opened := ⟨false, none⟩

/-! ## The target of a proxied channel -/

/-- `tokio::net::lookup_host` of a host and a port, where `none` is its error. An IP literal is its
own address. -/
structure Resolver where
  lookup_host : String → UInt16 → Option (List SocketAddr)
  literal : ∀ host ip, IpAddr.from_str host = some ip →
    ∀ port, lookup_host host port = some [⟨ip, port, 0⟩]

def host_port (host : String) (port : UInt32) : String :=
  String.ofList (host.toList ++ ':' :: show_number 10 port.toNat)

/-- The address that the spawned task dials, if it finds one. -/
def resolve_target (resolver : Resolver) (target_host : String) (target_port : UInt32) :
    Option SocketAddr :=
  match SocketAddr.from_str (host_port target_host target_port) with
  | some addr => some addr
  | none => (resolver.lookup_host target_host target_port.toUInt16).bind List.head?

/-! ## The handlers -/

variable {IpNetwork : Type} [Network IpNetwork]

/-- What the two handlers do alike, for a host that is not reserved. -/
def forward (forwarding : ForwardingPolicy IpNetwork) (authenticated_identity : Option Identity)
    (transport : TransportKind) (outbound_proxy : Option ProxyMode) (host_to_connect : String)
    (port_to_connect : UInt32) : Opened :=
  let identity := authenticated_identity.getD ⟨"", []⟩
  if forwarding.check host_to_connect port_to_connect.toUInt16 identity transport then
    ⟨true, some (.proxy host_to_connect port_to_connect (outbound_proxy.getD .Direct))⟩
  else refused

structure ServerHandler (IpNetwork : Type) where
  forwarding : ForwardingPolicy IpNetwork
  outbound_proxy : Option ProxyMode
  control_handler : Bool
  transport : TransportKind
  authenticated_identity : Option Identity

/-- A reserved host is accepted when there is a handler, and its channel is dropped. -/
def ServerHandler.channel_open_direct_tcpip (handler : ServerHandler IpNetwork)
    (host_to_connect : String) (port_to_connect : UInt32) : Opened × ServerHandler IpNetwork :=
  if starts_with host_to_connect ALKNET_PREFIX then
    (⟨handler.control_handler, none⟩, handler)
  else
    (forward handler.forwarding handler.authenticated_identity handler.transport
      handler.outbound_proxy host_to_connect port_to_connect, handler)

structure SshHandler (IpNetwork : Type) where
  forwarding : ForwardingPolicy IpNetwork
  outbound_proxy : Option ProxyMode
  transport : TransportKind
  authenticated_identity : Option Identity
  control_handler : Bool
  bridge_event_tx : Bool
  bridge_envelope_rx : Bool

/-- The bridge's channel ends and the control handler are taken by the open that uses them. -/
def SshHandler.channel_open_direct_tcpip (handler : SshHandler IpNetwork)
    (host_to_connect : String) (port_to_connect : UInt32) : Opened × SshHandler IpNetwork :=
  if starts_with host_to_connect ALKNET_PREFIX then
    if host_to_connect = ALKNET_CONTROL_DESTINATION ∧ handler.bridge_event_tx ∧
        handler.bridge_envelope_rx then
      (⟨true, some (.bridge handler.authenticated_identity)⟩,
        { handler with bridge_event_tx := false, bridge_envelope_rx := false })
    else if handler.control_handler then
      (⟨true, some .handle_channel⟩, { handler with control_handler := false })
    else (refused, handler)
  else
    (forward handler.forwarding handler.authenticated_identity handler.transport
      handler.outbound_proxy host_to_connect port_to_connect, handler)

end Alknet
