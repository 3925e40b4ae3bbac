import Alknet.Code.Client.Forward
import Alknet.Code.Server.Relay
import Alknet.Code.Socks5.Server

/-!
# The session handle of `ClientSession`, `client/connect.rs`

After its start, `ClientSession::run` shares the handle of its SSH session, behind one mutex, among
the tasks of the SOCKS5 server (`HandleChannelOpener`), those of the local forwarders
(`proxy_local_to_remote`), the reconnect monitor and `shutdown`. Who asks the peer for something
keeps the mutex until the answer. The other uses of the handle keep it over no await. On a handle
whose session has closed, `tcpip_forward` and `channel_open_direct_tcpip` fail at once, and nothing
goes out. Sessions are numbered in the order of their connection.
-/

namespace Alknet

inductive HandleUser where
  | opener (index : Nat)
  | monitor
  | shutdown
deriving DecidableEq

/-- Which code opens a channel. -/
inductive OpenerKind where
  | socks5
  | forward
deriving DecidableEq

/-- The error on a session that has closed. Only the SOCKS5 server looks at that first; a forwarder
has the error of the open. -/
def OpenerKind.closed_error : OpenerKind → ChannelOpenError
  | .socks5 => .SessionClosed
  | .forward => .ChannelOpenFailed

inductive OpenerPhase where
  -- in `handle.lock()`
  | locking
  -- has the mutex, in `channel_open_direct_tcpip`
  | asking
  | opened (session : Nat)
  | failed (error : ChannelOpenError)
deriving DecidableEq

structure Opener where
  kind : OpenerKind
  host : String
  port : UInt16
  phase : OpenerPhase
deriving DecidableEq

def Opener.request (opener : Opener) : SessionRequest :=
  .direct_tcpip opener.host opener.port.toUInt32

/-- What `RemoteForwarder::register` asks for. -/
def PortForwardSpec.request (spec : PortForwardSpec) : SessionRequest :=
  .tcpip_forward spec.bind_addr spec.bind_port.toUInt32

inductive ReconnectPhase where
  | sleeping
  -- in `handle.lock()`, to look whether the session is closed
  | wait_check
  -- it was closed; up to the end of `establish_session`
  | reconnecting
  -- has a new session, in `handle.lock()`
  | wait_swap
  -- in `handle.lock()`, to register this forward
  | wait_register (spec : PortForwardSpec) (left : List PortForwardSpec)
  -- has the mutex, in `register`
  | registering (left : List PortForwardSpec)
  | ended
deriving DecidableEq

/-- The loop that registers the forwards again. -/
def ReconnectPhase.register : List PortForwardSpec → ReconnectPhase
  | [] => .sleeping
  | spec :: left => .wait_register spec left

inductive ShutdownPhase where
  | unspoken
  -- in `handle.lock()`
  | locking
  -- has the mutex, in `disconnect`
  | disconnecting
  | draining
deriving DecidableEq

structure SharedHandle where
  remote_specs : List PortForwardSpec
  /-- The session that the handle is of. -/
  session : Nat
  closed : List Nat
  /-- Who has the mutex over an await. -/
  holder : Option HandleUser
  openers : List Opener
  monitor : ReconnectPhase
  shutdown_value : Bool
  shutdown : ShutdownPhase
  /-- What was asked of the peer, each in a session that was open. -/
  asked : List (Nat × SessionRequest)
  /-- The forwards that were not asked for, as the session was found closed. -/
  unsent : List (Nat × SessionRequest)

/-- The start has registered the forwards. -/
def ClientSession.started (remote_specs : List PortForwardSpec) : SharedHandle where
  remote_specs
  session := 0
  closed := []
  holder := none
  openers := []
  monitor := .sleeping
  shutdown_value := false
  shutdown := .unspoken
  asked := remote_specs.map fun spec => (0, spec.request)
  unsent := []

inductive HandleStep where
  /-- An application has a connection to one of the listeners. -/
  | connect (kind : OpenerKind) (host : String) (port : UInt16)
  /-- Who waits for the mutex gets it. -/
  | lock (user : HandleUser)
  /-- What the holder asked for is answered, or fails. -/
  | answer (accepted : Bool)
  | close (session : Nat)
  /-- The monitor's second is over. -/
  | wake
  | established (connected : Bool)
  | send_shutdown
  /-- `run` leaves its `select!`, aborts the monitor and calls `shutdown`. -/
  | stop
deriving DecidableEq

namespace SharedHandle

def is_closed (s : SharedHandle) : Bool := s.session ∈ s.closed

def ask (s : SharedHandle) (user : HandleUser) (request : SessionRequest) : SharedHandle :=
  { s with holder := some user, asked := s.asked ++ [(s.session, request)] }

def lock_opener (s : SharedHandle) (i : Nat) (opener : Opener) : Option SharedHandle :=
  match opener.phase with
  | .locking =>
    if s.is_closed then
      some { s with
        openers := s.openers.set i { opener with phase := .failed opener.kind.closed_error } }
    else
      some { s.ask (.opener i) opener.request with
        openers := s.openers.set i { opener with phase := .asking } }
  | _ => none

def lock_monitor (s : SharedHandle) : Option SharedHandle :=
  match s.monitor with
  | .wait_check =>
    some { s with monitor := if s.is_closed then .reconnecting else .sleeping }
  | .wait_swap =>
    some { s with session := s.session + 1, monitor := .register s.remote_specs }
  | .wait_register spec left =>
    if s.is_closed then
      some { s with
        unsent := s.unsent ++ [(s.session, spec.request)]
        monitor := .register left }
    else some { s.ask .monitor spec.request with monitor := .registering left }
  | _ => none

def lock_shutdown (s : SharedHandle) : Option SharedHandle :=
  match s.shutdown with
  | .locking =>
    if s.is_closed then some { s with shutdown := .draining }
    else some { s with shutdown := .disconnecting, holder := some .shutdown }
  | _ => none

def answer (s : SharedHandle) (accepted : Bool) : Option SharedHandle :=
  match s.holder with
  | none => none
  | some (.opener i) =>
    s.openers[i]?.map fun opener =>
      { s with
        holder := none
        openers := s.openers.set i
          { opener with
            phase := if accepted then .opened s.session else .failed .ChannelOpenFailed } }
  | some .monitor =>
    match s.monitor with
    -- a forward that is refused is only warned about
    | .registering left => some { s with holder := none, monitor := .register left }
    | _ => none
  | some .shutdown => some { s with holder := none, shutdown := .draining }

/-- `none` for a step that is not possible. -/
def step (s : SharedHandle) : HandleStep → Option SharedHandle
  | .connect kind host port =>
    some { s with openers := s.openers ++ [⟨kind, host, port, .locking⟩] }
  | .lock user =>
    if s.holder = none then
      match user with
      | .opener i => s.openers[i]?.bind (s.lock_opener i)
      | .monitor => s.lock_monitor
      | .shutdown => s.lock_shutdown
    else none
  | .answer accepted => s.answer accepted
  | .close n => if n ≤ s.session then some { s with closed := n :: s.closed } else none
  | .wake =>
    if s.monitor = .sleeping then
      some { s with monitor := if s.shutdown_value then .ended else .wait_check }
    else none
  | .established connected =>
    if s.monitor = .reconnecting then
      some { s with monitor := if connected then .wait_swap else .sleeping }
    else none
  | .send_shutdown => some { s with shutdown_value := true }
  | .stop =>
    if s.shutdown = .unspoken then
      some { s with
        holder := if s.holder = some .monitor then none else s.holder
        monitor := .ended
        shutdown_value := true
        shutdown := .locking }
    else none

end SharedHandle

end Alknet
