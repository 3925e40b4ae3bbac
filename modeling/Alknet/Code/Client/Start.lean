import Alknet.Code.Client.ForwardSpec
import Alknet.Code.Client.SharedHandle
import Alknet.Code.Napi.AcceptLoop

/-!
# The start of `ClientSession::run`, `client/connect.rs`

What `run` reads and asks for before it spawns its tasks. The server at the other end of the session
is one of the three of this repository, or another one.
-/

open Alknet.Rust

namespace Alknet

/-! ## The other end -/

variable {IpNetwork : Type} [Network IpNetwork]

/-- All but the `direct-tcpip` open are rejected. -/
def SshHandler.answer (handler : SshHandler IpNetwork) :
    SessionRequest → Opened × SshHandler IpNetwork
  | .direct_tcpip host port => handler.channel_open_direct_tcpip host port
  | _ => (refused, handler)

/-- The handler of a session at the other end. -/
inductive PeerHandler (IpNetwork : Type) where
  | server (handler : ServerHandler IpNetwork)
  | ssh (handler : SshHandler IpNetwork)
  | napi (handler : NapiServerHandler IpNetwork)

def PeerHandler.accepts (peer : PeerHandler IpNetwork) (request : SessionRequest) : Bool :=
  match peer with
  | .server handler => (handler.answer request).1.accepted
  | .ssh handler => (handler.answer request).1.accepted
  | .napi handler => (handler.answer request).accepted

/-! ## The start -/

/-- The listen address that the server gets. -/
def Socks5Server.with_addr {ε : Type} (addr : String) : Outcome ε SocketAddr :=
  match SocketAddr.from_str addr with
  | some listen_addr => .ok listen_addr
  | none => .error (.panic .unwrapOnErr)

def RemoteForwarder.new (spec : PortForwardSpec) : Except ForwardError PortForwardSpec :=
  if spec.kind ≠ .Remote then
    .error (.InvalidSpec ("expected remote spec, got " ++ spec.kind.debug))
  else .ok spec

/-- The loop over the remote forwards, with what it has asked for. `accepts` is what the other end
answers after these requests. -/
def register_forwards (accepts : List SessionRequest → SessionRequest → Bool)
    (asked : List SessionRequest) :
    List PortForwardSpec → Except ConnectError Unit × List SessionRequest
  | [] => (.ok (), asked)
  | spec :: specs =>
    match RemoteForwarder.new spec with
    | .error _ => (.error .ForwardFailed, asked)
    | .ok forwarder =>
      if accepts asked forwarder.request then
        register_forwards accepts (asked ++ [forwarder.request]) specs
      else (.error .ForwardFailed, asked ++ [forwarder.request])

/-- What the tasks are spawned with. -/
structure ClientStarted where
  socks5_listen : SocketAddr
  local_forwarders : List LocalForwarder
  remote_specs : List PortForwardSpec
deriving DecidableEq

/-- The fields of `ConnectOptions` that the start reads. -/
structure ClientFlags where
  socks5_addr : String
  forwards : List String
  remote_forwards : List String

def ClientSession.start (accepts : List SessionRequest → SessionRequest → Bool)
    (opts : ClientFlags) : Outcome ConnectError ClientStarted × List SessionRequest :=
  match SocketAddr.from_str opts.socks5_addr with
  | none =>
    (.error (.err (.InvalidFlag ("invalid SOCKS5 address: " ++ opts.socks5_addr))), [])
  | some socks5_addr =>
    match Socks5Server.with_addr socks5_addr.to_string with
    | .error fault => (.error fault, [])
    | .ok socks5_listen =>
      match build_local_forwarders opts.forwards with
      | .error e => (.error (.err e), [])
      | .ok local_forwarders =>
        match build_remote_specs opts.remote_forwards with
        | .error e => (.error (.err e), [])
        | .ok remote_specs =>
          match register_forwards accepts [] remote_specs with
          | (.error e, asked) => (.error (.err e), asked)
          | (.ok (), asked) => (.ok ⟨socks5_listen, local_forwarders, remote_specs⟩, asked)

end Alknet
