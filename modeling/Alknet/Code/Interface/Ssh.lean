import Alknet.Code.Server.DirectTcpip
import Alknet.Code.Server.RateLimit

/-!
# `SshInterface::accept`, `interface/ssh.rs`

A config cell is an `Arc<ArcSwap<DynamicConfig>>`. Handlers and configurations name a cell, and
what a cell holds may change at any time. The SSH handshake is `russh`'s; a session here is one
whose handshake succeeded.
-/

open Alknet.Rust

namespace Alknet

structure SshInterface (Cell : Type) where
  dynamic : Cell
  connection_limiter : ConnectionRateLimiter
  outbound_proxy : Option ProxyMode
  max_auth_attempts : Nat

structure SshInterfaceConfig (Cell : Type) where
  auth : String → Option Identity
  forwarding : Cell

structure RawFramingConfig where
  auth : String → Option Identity

inductive StreamInterfaceConfig (Cell : Type) where
  | Ssh (config : SshInterfaceConfig Cell)
  | RawFraming (config : RawFramingConfig)

/-- An accepted session, as the arguments of the `SshHandler::new` that made its handler. -/
structure SshSession (Cell : Type) where
  dynamic : Cell
  identity_provider : String → Option Identity
  outbound_proxy : Option ProxyMode
  remote_addr : Option SocketAddr
  transport : TransportKind
  connection_limiter : ConnectionRateLimiter
  max_auth_attempts : Nat

variable {Cell : Type}

def SshInterface.accept_inner (interface : SshInterface Cell)
    (ssh_config : SshInterfaceConfig Cell) (remote_addr : Option SocketAddr)
    (transport : TransportKind) : SshSession Cell where
  -- `ssh_config.forwarding` is cloned into `_forwarding` and not used
  dynamic := interface.dynamic
  identity_provider := ssh_config.auth
  outbound_proxy := interface.outbound_proxy
  remote_addr := remote_addr
  transport := transport
  connection_limiter := interface.connection_limiter
  max_auth_attempts := interface.max_auth_attempts

def SshInterface.accept (interface : SshInterface Cell) :
    StreamInterfaceConfig Cell → Except String (SshSession Cell)
  | .Ssh ssh_config => .ok (interface.accept_inner ssh_config none .Tcp)
  | .RawFraming _ => .error "SshInterface received RawFramingConfig"

/-- The session's handler at its start, with the policy that its cell holds and the bridge ends
that `with_bridge_channels` gave it. -/
def SshSession.handler {IpNetwork : Type} (session : SshSession Cell)
    (contents : Cell → ForwardingPolicy IpNetwork) : SshHandler IpNetwork where
  forwarding := contents session.dynamic
  outbound_proxy := session.outbound_proxy
  transport := session.transport
  authenticated_identity := none
  control_handler := false
  bridge_event_tx := true
  bridge_envelope_rx := true

end Alknet
