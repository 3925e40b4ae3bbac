import Alknet.Lib.Locks
import Mathlib.Data.Finset.Insert

/-!
# `ChannelManager`, `client/channel_manager.rs`

Any number of calls and the reconnect monitor share two `RwLock`s: one of the session handle and
one of the tracked forwards. `tokio`'s lock is fair: who asks for it joins the end of a queue, and
the head of the queue gets it as soon as its mode allows. What the server and the transport answer
is part of a step. `reconnect_attempts` is behind a lock that only the monitor uses.
-/

open Alknet.Lib

namespace Alknet

structure ForwardRequest where
  addr : String
  port : UInt32
deriving DecidableEq

/-- The fields of `ChannelManagerInner` behind a lock that is shared. -/
inductive ManagerLock where
  | handle
  | forwards
deriving DecidableEq

instance : Finite ManagerLock :=
  Finite.of_injective (fun lock => decide (lock = .handle)) fun a b h => by
    cases a <;> cases b <;> simp_all

/-! ## The calls -/

inductive ManagerCall where
  | request_tcpip_forward (request : ForwardRequest)
  | cancel_tcpip_forward (request : ForwardRequest)
  | open_direct_tcpip (host : String) (port : UInt32)
  | is_connected

def ManagerCall.handle_mode : ManagerCall → LockMode
  | .request_tcpip_forward _ => .write
  | .cancel_tcpip_forward _ | .open_direct_tcpip _ _ | .is_connected => .read

/-- What a call does to the tracked forwards, if it comes to that. -/
def ManagerCall.update : ManagerCall → Option (Finset ForwardRequest → Finset ForwardRequest)
  | .request_tcpip_forward request => some (insert request)
  | .cancel_tcpip_forward request => some (·.erase request)
  | .open_direct_tcpip _ _ | .is_connected => none

inductive CallResult where
  | port (port : UInt32)
  | cancelled
  | channel
  | connected (connected : Bool)
  | ChannelClosed
deriving DecidableEq

/-- `reply` is what the session answers, with the port of a forward. Only `is_connected` does not
ask. -/
def ManagerCall.result (is_closed : Bool) (reply : Option UInt32) : ManagerCall → CallResult
  | .is_connected => .connected !is_closed
  | .request_tcpip_forward _ => (reply.map .port).getD .ChannelClosed
  | .cancel_tcpip_forward _ => (reply.map fun _ => .cancelled).getD .ChannelClosed
  | .open_direct_tcpip _ _ => (reply.map fun _ => .channel).getD .ChannelClosed

inductive CallPhase where
  -- in `handle.read()` or `handle.write()`
  | wait_handle
  -- has the handle, and waits for the reply
  | asking
  -- has the handle, in `forwards.write()`
  | wait_forwards
  -- has both
  | updating
  | returned
deriving DecidableEq

structure CallTask where
  call : ManagerCall
  phase : CallPhase
  result : Option CallResult

namespace CallTask

def wants (task : CallTask) : Option (ManagerLock × LockMode) :=
  match task.phase with
  | .wait_handle => some (.handle, task.call.handle_mode)
  | .wait_forwards => some (.forwards, .write)
  | .asking | .updating | .returned => none

def holds (task : CallTask) : ManagerLock → Option LockMode
  | .handle =>
    match task.phase with
    | .asking | .wait_forwards | .updating => some task.call.handle_mode
    | .wait_handle | .returned => none
  | .forwards =>
    match task.phase with
    | .updating => some .write
    | .wait_handle | .asking | .wait_forwards | .returned => none

/-- The task after it got the lock that it waits for. -/
def granted (task : CallTask) : CallTask :=
  match task.phase with
  | .wait_handle => { task with phase := .asking }
  | .wait_forwards => { task with phase := .updating }
  | .asking | .updating | .returned => task

end CallTask

/-! ## The monitor -/

inductive MonitorPhase where
  | sleeping
  -- in `handle_arc.read()`
  | wait_check
  | checking
  -- in `reconnect`, up to the end of `establish_session`
  | reconnecting
  -- in `handle.write()`
  | wait_swap
  | swapping
  -- in `re_register_forwards`, in `forwards.read()`
  | wait_forwards
  | looking
  -- has the forwards, in `handle.write()`
  | wait_register
  | registering
deriving DecidableEq

namespace MonitorPhase

def wants : MonitorPhase → Option (ManagerLock × LockMode)
  | .wait_check => some (.handle, .read)
  | .wait_swap => some (.handle, .write)
  | .wait_forwards => some (.forwards, .read)
  | .wait_register => some (.handle, .write)
  | .sleeping | .checking | .reconnecting | .swapping | .looking | .registering => none

def holds : MonitorPhase → ManagerLock → Option LockMode
  | .checking, .handle => some .read
  | .swapping, .handle | .registering, .handle => some .write
  | .looking, .forwards | .wait_register, .forwards | .registering, .forwards => some .read
  | _, _ => none

def granted : MonitorPhase → MonitorPhase
  | .wait_check => .checking
  | .wait_swap => .swapping
  | .wait_forwards => .looking
  | .wait_register => .registering
  | phase => phase

end MonitorPhase

/-! ## The manager -/

inductive ManagerTask where
  | call (index : Nat)
  | monitor
deriving DecidableEq

structure Manager where
  is_closed : Bool
  forwards : Finset ForwardRequest
  reconnect_attempts : UInt32
  calls : List CallTask
  monitor : MonitorPhase
  handle_queue : List ManagerTask
  forwards_queue : List ManagerTask

inductive ManagerStep where
  | call (call : ManagerCall)
  -- the head of the lock's queue gets it
  | grant (lock : ManagerLock)
  -- the session answers a call
  | answer (index : Nat) (reply : Option UInt32)
  | update (index : Nat)
  | session_closes
  | wake
  | check
  | establish_session (ok : Bool)
  | swap
  | look
  | register

/-- A fresh manager has no tracked forwards, and its monitor sleeps. -/
def ChannelManager.new : Manager := ⟨false, ∅, 0, [], .sleeping, [], []⟩

namespace Manager

def holds (s : Manager) (task : ManagerTask) (lock : ManagerLock) : Option LockMode :=
  match task with
  | .call index => s.calls[index]?.bind (·.holds lock)
  | .monitor => s.monitor.holds lock

def wants (s : Manager) (task : ManagerTask) : Option (ManagerLock × LockMode) :=
  match task with
  | .call index => s.calls[index]?.bind (·.wants)
  | .monitor => s.monitor.wants

/-- Nobody holds the lock in a mode that excludes this one. -/
def admits (s : Manager) (lock : ManagerLock) (mode : LockMode) : Bool :=
  s.calls.all (fun task => (task.holds lock).all mode.compatible) &&
    (s.monitor.holds lock).all mode.compatible

def queue (s : Manager) : ManagerLock → List ManagerTask
  | .handle => s.handle_queue
  | .forwards => s.forwards_queue

def set_queue (s : Manager) (lock : ManagerLock) (queue : List ManagerTask) : Manager :=
  match lock with
  | .handle => { s with handle_queue := queue }
  | .forwards => { s with forwards_queue := queue }

def enqueue (s : Manager) (task : ManagerTask) (lock : ManagerLock) : Manager :=
  s.set_queue lock (s.queue lock ++ [task])

def set_call (s : Manager) (index : Nat) (task : CallTask) : Manager :=
  { s with calls := s.calls.set index task }

/-- The task goes on. -/
def resume (s : Manager) : ManagerTask → Option Manager
  | .call index => s.calls[index]?.map fun task => s.set_call index task.granted
  | .monitor => some { s with monitor := s.monitor.granted }

def grant (s : Manager) (lock : ManagerLock) : Option Manager :=
  match s.queue lock with
  | [] => none
  | task :: queue =>
    match s.wants task with
    | some (wanted, mode) =>
      if wanted = lock ∧ s.admits lock mode then (s.set_queue lock queue).resume task else none
    | none => none

/-- A call goes on with the reply. An error returns at once. -/
def answer (s : Manager) (index : Nat) (reply : Option UInt32) : Option Manager :=
  match s.calls[index]? with
  | some task =>
    if task.phase = .asking then
      let result := some (task.call.result s.is_closed reply)
      if reply.isSome ∧ task.call.update.isSome then
        some ((s.set_call index { task with phase := .wait_forwards, result := result }).enqueue
          (.call index) .forwards)
      else some (s.set_call index { task with phase := .returned, result := result })
    else none
  | none => none

def update (s : Manager) (index : Nat) : Option Manager :=
  match s.calls[index]? with
  | some task =>
    if task.phase = .updating then
      some { s.set_call index { task with phase := .returned } with
        forwards := (task.call.update.getD id) s.forwards }
    else none
  | none => none

def step (s : Manager) : ManagerStep → Option Manager
  | .call call =>
    some (enqueue { s with calls := s.calls ++ [⟨call, .wait_handle, none⟩] }
      (.call s.calls.length) .handle)
  | .grant lock => s.grant lock
  | .answer index reply => s.answer index reply
  | .update index => s.update index
  | .session_closes => some { s with is_closed := true }
  | .wake =>
    if s.monitor = .sleeping then some (enqueue { s with monitor := .wait_check } .monitor .handle)
    else none
  | .check =>
    if s.monitor = .checking then
      if s.is_closed then
        some { s with monitor := .reconnecting, reconnect_attempts := s.reconnect_attempts + 1 }
      else some { s with monitor := .sleeping }
    else none
  | .establish_session ok =>
    if s.monitor = .reconnecting then
      if ok then some (enqueue { s with monitor := .wait_swap } .monitor .handle)
      else some { s with monitor := .sleeping }
    else none
  | .swap =>
    if s.monitor = .swapping then
      some (enqueue
        { s with is_closed := false, reconnect_attempts := 0, monitor := .wait_forwards }
        .monitor .forwards)
    else none
  | .look =>
    if s.monitor = .looking then
      if s.forwards = ∅ then some { s with monitor := .sleeping }
      else some (enqueue { s with monitor := .wait_register } .monitor .handle)
    else none
  | .register => if s.monitor = .registering then some { s with monitor := .sleeping } else none

end Manager

end Alknet
