import Alknet.Code.Server.Options
import Alknet.Code.Server.PublicKey

/-!
# A server and its sessions

`run_stream` of `server/serve.rs` with the `ServerHandler` of each of its connections. The sessions
share the configuration, which can be replaced at any time, and the connection limiter. `russh` asks
a handler for channels only after the handler has accepted a key, and for keys only before. A task
that was spawned for a channel goes on by itself.
-/

open Alknet.Rust

namespace Alknet

/-! ## Requests of a session -/

/-- What a peer can ask for. -/
inductive SessionRequest where
  | direct_tcpip (host : String) (port : UInt32)
  | session
  | x11
  | forwarded_tcpip (host : String) (port : UInt32)
  | exec (data : List UInt8)
  | shell
  | subsystem (name : String)
  | pty (term : String)
  | env (variable_name variable_value : String)
  | x11_forwarding
  | agent
  | tcpip_forward (address : String) (port : UInt32)
  | cancel_tcpip_forward (address : String) (port : UInt32)
  | streamlocal_forward (socket_path : String)
deriving DecidableEq

section

variable {IpNetwork : Type} [Network IpNetwork]

/-- All but the `direct-tcpip` open are rejected. -/
def ServerHandler.answer (handler : ServerHandler IpNetwork) :
    SessionRequest → Opened × ServerHandler IpNetwork
  | .direct_tcpip host port => handler.channel_open_direct_tcpip host port
  | _ => (refused, handler)

end

/-! ## The server -/

structure RelaySession where
  connection : Connection
  authentication : Authentication
  /-- `russh` has told the peer that it is authenticated. -/
  authenticated : Bool
  ended : Bool

def RelaySession.new (connection : Connection) (max_auth_attempts : UInt64) : RelaySession :=
  ⟨connection, .new max_auth_attempts, false, false⟩

structure RelayAnswer where
  session : Nat
  request : SessionRequest
  accepted : Bool
deriving DecidableEq

/-- A task that was spawned for a channel. It is `pending` until it has looked up its target. -/
structure RelayTask where
  session : Nat
  target_host : String
  target_port : UInt32
  mode : ProxyMode
  pending : Bool
deriving DecidableEq

/-- A call of `proxy_channel`. -/
structure RelayDial where
  task : Nat
  mode : ProxyMode
  target : SocketAddr
deriving DecidableEq

structure Relay (KeyData IpNetwork HostKey : Type) where
  server : Server KeyData IpNetwork HostKey
  transport_kind : TransportKind
  /-- The handler that the accept loop is creating. -/
  creating : Option Connection
  sessions : List RelaySession
  answers : List RelayAnswer
  tasks : List RelayTask
  dials : List RelayDial

inductive RelayStep (KeyData IpNetwork : Type) where
  | reload (new_config : DynamicConfig KeyData IpNetwork)
  /-- `ServerHandler::new` asks the limiter. -/
  | check (remote_addr : Option SocketAddr)
  /-- It returns. A session begins, unless the connection is not allowed. -/
  | connect
  | auth_publickey (session : Nat) (public_key : PublicKey KeyData)
  | request (session : Nat) (request : SessionRequest)
  /-- A task looks up its target, with the resolver as it answers then. -/
  | dial (task : Nat) (resolver : Resolver)
  /-- A session ends, and its handler is dropped. -/
  | end_session (session : Nat)

namespace Relay

variable {KeyData IpNetwork HostKey : Type}

def new (server : Server KeyData IpNetwork HostKey) (transport_kind : TransportKind) :
    Relay KeyData IpNetwork HostKey :=
  ⟨server, transport_kind, none, [], [], [], []⟩

def limit (relay : Relay KeyData IpNetwork HostKey)
    (f : ConnectionRateLimiter → ConnectionRateLimiter) : Relay KeyData IpNetwork HostKey :=
  { relay with
    server := { relay.server with connection_limiter := f relay.server.connection_limiter } }

/-- The handler of a session, with the policy that it loads. -/
def handler (relay : Relay KeyData IpNetwork HostKey) (session : RelaySession) :
    ServerHandler IpNetwork where
  forwarding := relay.server.dynamic.forwarding
  outbound_proxy := relay.server.outbound_proxy
  control_handler := false
  transport := relay.transport_kind
  authenticated_identity := session.authentication.authenticated_identity

def spawn (relay : Relay KeyData IpNetwork HostKey) (session : Nat) :
    Option Spawned → Relay KeyData IpNetwork HostKey
  | some (.proxy target_host target_port mode) =>
    { relay with tasks := relay.tasks ++ [⟨session, target_host, target_port, mode, true⟩] }
  | _ => relay

/-- The first half of `ServerHandler::new`. -/
def check (relay : Relay KeyData IpNetwork HostKey) (remote_addr : Option SocketAddr) :
    Option (Relay KeyData IpNetwork HostKey) :=
  match relay.creating with
  | none =>
    let connection := ServerHandler.hooks.new_check relay.server.connection_limiter remote_addr
    some { relay with creating := some connection }
  | some _ => none

/-- The second half of it, and what the accept loop does with the handler. -/
def connect (relay : Relay KeyData IpNetwork HostKey) : Option (Relay KeyData IpNetwork HostKey) :=
  match relay.creating with
  | none => none
  | some connection =>
    let counted := relay.limit (ServerHandler.hooks.new_connect connection)
    if connection.connection_allowed then
      let session := RelaySession.new connection relay.server.max_auth_attempts
      some { counted with creating := none, sessions := relay.sessions ++ [session] }
    else some { counted.limit (ServerHandler.hooks.drop connection) with creating := none }

/-- A key is presented to the handler of a session. -/
def authenticate [SshKey KeyData] (relay : Relay KeyData IpNetwork HostKey)
    (public_key : PublicKey KeyData) (session : RelaySession) : RelaySession :=
  let attempted := ServerHandler.auth_publickey SshKey.fingerprint
    ⟨public_key, relay.server.dynamic.auth.resolve_identity_from_fingerprint⟩
    session.authentication
  { session with
    authentication := attempted.2
    authenticated := attempted.1.auth == .Accept }

def auth_publickey [SshKey KeyData] (relay : Relay KeyData IpNetwork HostKey) (i : Nat)
    (public_key : PublicKey KeyData) : Option (Relay KeyData IpNetwork HostKey) :=
  match relay.sessions[i]? with
  | none => none
  | some session =>
    if session.ended || session.authenticated then none
    else
      some { relay with sessions := relay.sessions.set i (relay.authenticate public_key session) }

def request [Network IpNetwork] (relay : Relay KeyData IpNetwork HostKey) (i : Nat)
    (request : SessionRequest) : Option (Relay KeyData IpNetwork HostKey) :=
  match relay.sessions[i]? with
  | none => none
  | some session =>
    if session.ended || !session.authenticated then none
    else
      let opened := ((relay.handler session).answer request).1
      let answered : Relay KeyData IpNetwork HostKey :=
        { relay with answers := relay.answers ++ [⟨i, request, opened.accepted⟩] }
      some (answered.spawn i opened.spawned)

def dial (relay : Relay KeyData IpNetwork HostKey) (i : Nat) (resolver : Resolver) :
    Option (Relay KeyData IpNetwork HostKey) :=
  match relay.tasks[i]? with
  | none => none
  | some task =>
    if task.pending then
      let target := resolve_target resolver task.target_host task.target_port
      let dialed := target.toList.map fun target => RelayDial.mk i task.mode target
      some { relay with
        tasks := relay.tasks.set i { task with pending := false }
        dials := relay.dials ++ dialed }
    else none

def end_session (relay : Relay KeyData IpNetwork HostKey) (i : Nat) :
    Option (Relay KeyData IpNetwork HostKey) :=
  match relay.sessions[i]? with
  | none => none
  | some session =>
    if session.ended then none
    else
      let left := relay.limit (ServerHandler.hooks.drop session.connection)
      some { left with sessions := relay.sessions.set i { session with ended := true } }

/-- `none` for a step that is not possible. -/
def step [SshKey KeyData] [Network IpNetwork] (relay : Relay KeyData IpNetwork HostKey) :
    RelayStep KeyData IpNetwork → Option (Relay KeyData IpNetwork HostKey)
  | .reload new_config =>
    some { relay with server := { relay.server with dynamic := new_config } }
  | .check remote_addr => relay.check remote_addr
  | .connect => relay.connect
  | .auth_publickey i public_key => relay.auth_publickey i public_key
  | .request i request => relay.request i request
  | .dial i resolver => relay.dial i resolver
  | .end_session i => relay.end_session i

end Relay

end Alknet
