import Alknet.Code.Napi.Serve
import Alknet.Code.Server.Relay
import Alknet.Rust.Watch

/-!
# The Node.js server, `alknet-napi/src/serve.rs`

`run_accept_loop`, the task that it spawns for each connection, and the methods of `AlknetServer`
that Node.js calls meanwhile. The handler of a connection puts channels to reserved hosts into a
queue. The task of the connection takes them out and calls the function that is registered then.
The server object has the only sender of the shutdown channel, so the loop also ends when Node.js
collects the object.
-/

open Alknet.Rust

namespace Alknet

section

variable {IpNetwork : Type} [Network IpNetwork]

/-- All but the `direct-tcpip` open are rejected. -/
def NapiServerHandler.answer (handler : NapiServerHandler IpNetwork) :
    SessionRequest → NapiOpened
  | .direct_tcpip host port => handler.channel_open_direct_tcpip host port
  | _ => ⟨false, false⟩

end

structure ConnectionInfo where
  remote_addr : Option String
  transport_kind : String
deriving DecidableEq

/-- A call of a registered function, with the stream of a channel. -/
structure ConnectionEvent where
  callback : Nat
  session : Nat
  channel : Nat
  info : ConnectionInfo
deriving DecidableEq

/-- Where the task of a connection is. -/
inductive NapiTask where
  -- in `run_stream` of `russh`, up to where it spawns the task that calls the handler
  | setup
  -- behind that spawn: on its way to `channel_rx.recv()`, which nobody sees, or in it
  | receiving
  -- has a channel, in `tsfn_holder.lock()`
  | calling (channel : Nat)
  | finished
deriving DecidableEq

structure NapiSession where
  connection : Connection
  info : ConnectionInfo
  authentication : Authentication
  /-- `russh` has told the peer that it is authenticated. -/
  authenticated : Bool
  /-- The handler is dropped, and with it the sender of the queue. -/
  ended : Bool
  task : NapiTask
  queue : List Nat

/-- `max_auth_attempts` is fixed. -/
def NapiSession.new (connection : Connection) (transport_kind : TransportKind) : NapiSession where
  connection
  info := ⟨connection.remote_addr.map SocketAddr.to_string, transport_kind.to_string⟩
  authentication := .new 10
  authenticated := false
  ended := false
  task := .setup
  queue := []

/-- Where `run_accept_loop` is. -/
inductive AcceptPhase where
  -- at the head of the loop
  | checking
  -- in `acceptor.accept()` and `shutdown_rx.changed()`
  | selecting
  -- in `NapiServerHandler::new`
  | creating (connection : Connection)
  | stopped
deriving DecidableEq

/-- A channel is known by its place among the answers. -/
structure NapiServing (KeyData IpNetwork : Type) where
  dynamic : DynamicConfig KeyData IpNetwork
  connection_limiter : ConnectionRateLimiter
  transport_kind : TransportKind
  shutdown : Watch
  on_connection_tsfn : Option Nat
  phase : AcceptPhase
  sessions : List NapiSession
  answers : List RelayAnswer
  events : List ConnectionEvent

inductive NapiStep (KeyData IpNetwork : Type) where
  | reload (new_config : DynamicConfig KeyData IpNetwork)
  | on_connection (callback : Nat)
  | close
  /-- Node.js collects the server object. -/
  | collect
  | check
  | accept (remote_addr : Option SocketAddr)
  | accept_failed
  | connect
  | changed
  | set_up (session : Nat)
  | set_up_failed (session : Nat)
  | auth_publickey (session : Nat) (public_key : PublicKey KeyData)
  | request (session : Nat) (request : SessionRequest)
  | end_session (session : Nat)
  | receive (session : Nat)
  | call (session : Nat)

namespace NapiServing

variable {KeyData IpNetwork : Type}

/-- What `serve` returns with. -/
def new (dynamic : DynamicConfig KeyData IpNetwork) (transport_kind : TransportKind) :
    NapiServing KeyData IpNetwork where
  dynamic
  connection_limiter := .new 0
  transport_kind
  shutdown := ⟨false, false, true⟩
  on_connection_tsfn := none
  phase := .checking
  sessions := []
  answers := []
  events := []

/-- A method of the server object, which must be there. -/
def method (s t : NapiServing KeyData IpNetwork) : Option (NapiServing KeyData IpNetwork) :=
  if s.shutdown.senders then some t else none

/-- A step of the session with this index. -/
def on_session (s : NapiServing KeyData IpNetwork) (i : Nat)
    (f : NapiSession → Option (NapiServing KeyData IpNetwork)) :
    Option (NapiServing KeyData IpNetwork) :=
  s.sessions[i]?.bind f

def set_session (s : NapiServing KeyData IpNetwork) (i : Nat) (session : NapiSession) :
    NapiServing KeyData IpNetwork :=
  { s with sessions := s.sessions.set i session }

/-- The handler of a session, with the policy that it loads. -/
def handler (s : NapiServing KeyData IpNetwork) (session : NapiSession) :
    NapiServerHandler IpNetwork where
  forwarding := s.dynamic.forwarding
  transport := s.transport_kind
  authenticated_identity := session.authentication.authenticated_identity
  channel_sender := some ⟨session.task != .finished⟩

/-- The second half of `NapiServerHandler::new`, and what the loop does with the handler. -/
def connect (s : NapiServing KeyData IpNetwork) : Option (NapiServing KeyData IpNetwork) :=
  match s.phase with
  | .creating connection =>
    let counted := NapiServerHandler.hooks.new_connect connection s.connection_limiter
    if connection.connection_allowed then
      some { s with
        connection_limiter := counted
        phase := .checking
        sessions := s.sessions ++ [.new connection s.transport_kind] }
    else
      some { s with
        connection_limiter := NapiServerHandler.hooks.drop connection counted
        phase := .checking }
  | _ => none

/-- The handler of a session is dropped. -/
def drop_handler (s : NapiServing KeyData IpNetwork) (session : NapiSession) :
    NapiServing KeyData IpNetwork :=
  { s with
    connection_limiter := NapiServerHandler.hooks.drop session.connection s.connection_limiter }

/-- Before the end of the setup there is no task yet that calls the handler. -/
def auth_publickey [SshKey KeyData] (s : NapiServing KeyData IpNetwork) (i : Nat)
    (public_key : PublicKey KeyData) (session : NapiSession) :
    Option (NapiServing KeyData IpNetwork) :=
  if session.task = .setup ∨ session.ended ∨ session.authenticated then none
  else
    let attempted := NapiServerHandler.auth_publickey SshKey.fingerprint
      ⟨public_key, s.dynamic.auth.resolve_identity_from_fingerprint⟩ session.authentication
    some (s.set_session i { session with
      authentication := attempted.2
      authenticated := attempted.1.auth == .Accept })

def request [Network IpNetwork] (s : NapiServing KeyData IpNetwork) (i : Nat)
    (request : SessionRequest) (session : NapiSession) : Option (NapiServing KeyData IpNetwork) :=
  if session.ended ∨ session.authenticated = false then none
  else
    let opened := (s.handler session).answer request
    let queue := if opened.queued then session.queue ++ [s.answers.length] else session.queue
    let answered : NapiServing KeyData IpNetwork :=
      { s with answers := s.answers ++ [⟨i, request, opened.accepted⟩] }
    some (answered.set_session i { session with queue := queue })

/-- `channel_rx.recv()` returns. It returns nothing when the queue is empty and the sender gone. -/
def receive (s : NapiServing KeyData IpNetwork) (i : Nat) (session : NapiSession) :
    Option (NapiServing KeyData IpNetwork) :=
  match session.task, session.queue with
  | .receiving, channel :: queue =>
    some (s.set_session i { session with task := .calling channel, queue := queue })
  | .receiving, [] =>
    if session.ended then some (s.set_session i { session with task := .finished }) else none
  | _, _ => none

/-- The function that is registered is called, if there is one. -/
def call (s : NapiServing KeyData IpNetwork) (i : Nat) (session : NapiSession) :
    Option (NapiServing KeyData IpNetwork) :=
  match session.task with
  | .calling channel =>
    let events := s.on_connection_tsfn.toList.map fun callback =>
      ConnectionEvent.mk callback i channel session.info
    let called : NapiServing KeyData IpNetwork := { s with events := s.events ++ events }
    some (called.set_session i { session with task := .receiving })
  | _ => none

/-- `none` for a step that is not possible. -/
def step [SshKey KeyData] [Network IpNetwork] (s : NapiServing KeyData IpNetwork) :
    NapiStep KeyData IpNetwork → Option (NapiServing KeyData IpNetwork)
  | .reload new_config => s.method { s with dynamic := new_config }
  | .on_connection callback => s.method { s with on_connection_tsfn := some callback }
  | .close => s.method { s with shutdown := s.shutdown.send true }
  | .collect => s.method { s with shutdown := { s.shutdown with senders := false } }
  | .check =>
    if s.phase = .checking then
      some { s with phase := if s.shutdown.value then .stopped else .selecting }
    else none
  | .accept remote_addr =>
    if s.phase = .selecting then
      let connection := NapiServerHandler.hooks.new_check s.connection_limiter remote_addr
      some { s with phase := .creating connection }
    else none
  | .accept_failed => if s.phase = .selecting then some { s with phase := .checking } else none
  | .connect => s.connect
  | .changed =>
    if s.phase = .selecting ∧ s.shutdown.ready then some { s with phase := .stopped } else none
  | .set_up i => s.on_session i fun session =>
    if session.task = .setup then some (s.set_session i { session with task := .receiving })
    else none
  | .set_up_failed i => s.on_session i fun session =>
    if session.task = .setup then
      some ((s.drop_handler session).set_session i
        { session with task := .finished, ended := true })
    else none
  | .auth_publickey i public_key => s.on_session i (s.auth_publickey i public_key)
  | .request i request => s.on_session i (s.request i request)
  | .end_session i => s.on_session i fun session =>
    if session.task = .setup ∨ session.ended then none
    else some ((s.drop_handler session).set_session i { session with ended := true })
  | .receive i => s.on_session i (s.receive i)
  | .call i => s.on_session i (s.call i)

end NapiServing

end Alknet
