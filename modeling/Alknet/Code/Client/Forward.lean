import Alknet.Code.Server.DirectTcpip
import Alknet.Rust.Watch

/-!
# Local forwarders, `client/forward.rs`

`run_local_forwarders` spawns one task for each forwarder, waits for the shutdown channel, aborts
the tasks and joins them. The function and the tasks run at the same time. A step is what one of
them does between two awaits, or a part of it that the others can see.
-/

open Alknet.Rust

namespace Alknet

inductive PortForwardSpecKind where
  | Local
  | Remote
deriving DecidableEq

structure PortForwardSpec where
  kind : PortForwardSpecKind
  bind_addr : String
  bind_port : UInt16
  target_host : String
  target_port : UInt16
deriving DecidableEq

inductive ForwardError where
  | InvalidSpec (spec : String)
  | BindFailed
deriving DecidableEq

def PortForwardSpec.listen_addr (spec : PortForwardSpec) : Except ForwardError SocketAddr :=
  let text := host_port spec.bind_addr spec.bind_port.toUInt32
  match SocketAddr.from_str text with
  | some addr => .ok addr
  | none => .error (.InvalidSpec text)

/-- The listener is the address it is bound to. -/
structure LocalForwarder where
  spec : PortForwardSpec
  listener : Option SocketAddr
deriving DecidableEq

namespace LocalForwarder

/-- `run` up to its loop. `bound` says whether the system binds the address. -/
def bind (forwarder : LocalForwarder) (bound : Bool) : Except ForwardError LocalForwarder := do
  let listen_addr ← forwarder.spec.listen_addr
  if bound then return { forwarder with listener := some listen_addr }
  else throw .BindFailed

def stop (forwarder : LocalForwarder) : LocalForwarder := { forwarder with listener := none }

end LocalForwarder

/-! ## The task of a forwarder -/

/-- Where a task is in its `select!` over `run` and `cancel_rx`. -/
inductive TaskPhase where
  | spawned
  -- in `listener.accept()`
  | accepting
  -- after an accept error, in `handle.lock()`
  | locking
  -- `run` has returned
  | returned
  -- the branch of `cancel_rx` was taken
  | stopped
  | aborted
deriving DecidableEq

def TaskPhase.running : TaskPhase → Bool
  | .spawned | .accepting | .locking => true
  | .returned | .stopped | .aborted => false

structure ForwarderTask where
  forwarder : LocalForwarder
  phase : TaskPhase
  /-- Its `run` has come to the loop that accepts. -/
  listening : Bool
deriving DecidableEq

inductive TaskStep where
  | bind (bound : Bool)
  | accept (accepted : Bool)
  | is_closed (closed : Bool)
  | cancel

namespace ForwarderTask

/-- `cancel_tx` says whether the sender of `cancel_rx` still exists. -/
def step (cancel_tx : Bool) (task : ForwarderTask) : TaskStep → Option ForwarderTask
  | .bind bound =>
    if task.phase = .spawned then
      match task.forwarder.bind bound with
      | .ok forwarder => some { forwarder := forwarder, phase := .accepting, listening := true }
      | .error _ => some { task with phase := .returned }
    else none
  | .accept accepted =>
    if task.phase = .accepting then
      -- an accepted connection gets a task of its own
      some { task with phase := if accepted then .accepting else .locking }
    else none
  | .is_closed closed =>
    if task.phase = .locking then
      some { task with phase := if closed then .returned else .accepting }
    else none
  | .cancel =>
    if task.phase.running ∧ cancel_tx = false then
      some { task with forwarder := task.forwarder.stop, phase := .stopped }
    else none

/-- A finished task keeps its result. -/
def abort (task : ForwarderTask) : ForwarderTask :=
  if task.phase.running then { task with phase := .aborted } else task

/-- What `task.await` gives: a cancelled task has no forwarder. -/
def result (task : ForwarderTask) : Option LocalForwarder :=
  if task.phase = .aborted then none else some task.forwarder

end ForwarderTask

/-! ## `run_local_forwarders` -/

/-- Where `run_local_forwarders` is. -/
inductive ForwardPhase where
  -- at the head of the loop that spawns
  | spawning
  -- behind the push, with `_cancel_tx` in scope
  | pushed
  -- in `shutdown.changed()`
  | waiting
  -- at the task with this index in the loop that aborts
  | aborting (index : Nat)
  -- at the task with this index in the loop that joins
  | joining (index : Nat)
  | returned
deriving DecidableEq

structure Forwarding where
  forwarders : List LocalForwarder
  tasks : List ForwarderTask
  shutdown : Watch
  phase : ForwardPhase
  results : List LocalForwarder

inductive ForwardStep where
  | spawn
  | end_iteration
  | spawned_all
  | changed
  | abort
  | join
  | task (index : Nat) (step : TaskStep)
  | send (value : Bool)
  | drop_senders

def run_local_forwarders (forwarders : List LocalForwarder) (shutdown : Watch) : Forwarding :=
  ⟨forwarders, [], shutdown, .spawning, []⟩

/-- `_cancel_tx` is in scope until the end of its iteration. -/
def Forwarding.cancel_tx (s : Forwarding) (index : Nat) : Bool :=
  s.phase = .pushed ∧ index + 1 = s.tasks.length

def Forwarding.step (s : Forwarding) : ForwardStep → Option Forwarding
  | .spawn =>
    match s.phase, s.forwarders with
    | .spawning, forwarder :: forwarders =>
      some { s with
        forwarders := forwarders
        tasks := s.tasks ++ [⟨forwarder, .spawned, false⟩]
        phase := .pushed }
    | _, _ => none
  -- `_cancel_tx` is dropped
  | .end_iteration =>
    if s.phase = .pushed then some { s with phase := .spawning } else none
  | .spawned_all =>
    if s.phase = .spawning ∧ s.forwarders = [] then some { s with phase := .waiting } else none
  | .changed =>
    if s.phase = .waiting ∧ s.shutdown.ready then some { s with phase := .aborting 0 } else none
  | .abort =>
    match s.phase with
    | .aborting index =>
      match s.tasks[index]? with
      | some task =>
        some { s with tasks := s.tasks.set index task.abort, phase := .aborting (index + 1) }
      | none => some { s with phase := .joining 0 }
    | _ => none
  | .join =>
    match s.phase with
    | .joining index =>
      match s.tasks[index]? with
      | some task =>
        if task.phase.running then none
        else some { s with
          phase := .joining (index + 1), results := s.results ++ task.result.toList }
      | none => some { s with phase := .returned }
    | _ => none
  | .task index step =>
    match s.tasks[index]? with
    | some task =>
      (task.step (s.cancel_tx index) step).map fun task =>
        { s with tasks := s.tasks.set index task }
    | none => none
  | .send value =>
    if s.shutdown.senders then some { s with shutdown := s.shutdown.send value } else none
  | .drop_senders => some { s with shutdown := { s.shutdown with senders := false } }

end Alknet
