import Alknet.Code.Client.Forward

/-!
# `ClientSession::run`, `client/connect.rs`

From the first spawn on. The session is behind its own lock and its content is not modelled: no
task that `run` starts ends or stays because of it. All receivers are clones of `shutdown_rx`, so
the watch channel of the forwarders stands for each of them.
-/

open Alknet.Rust

namespace Alknet

inductive TaskStatus where
  | unspawned
  | running
  -- aborted, and not at an await since
  | aborted
  | ended
deriving DecidableEq

/-- The next statement of `run` and, between `send_shutdown` and `drain`, of `shutdown`. -/
inductive RunPhase where
  | spawn_socks5
  | spawn_forward
  | spawn_signal
  | spawn_reconnect
  | select
  | abort_reconnect
  | abort_signal
  | send_shutdown
  | disconnect
  | drain
  | abort_forward
  | await_forward
  | returned
deriving DecidableEq

structure ClientRun where
  phase : RunPhase
  socks5 : TaskStatus
  forward_task : TaskStatus
  forward : Forwarding
  signal : TaskStatus
  reconnect : TaskStatus

inductive ClientStep where
  | next
  | select_shutdown
  | select_socks5
  | socks5_ends
  | signal (received : Bool)
  | reconnect_ends
  -- by a clone from `shutdown_sender`
  | send (value : Bool)
  | forward (step : ForwardStep)
  | forward_cancelled

def ClientSession.run (local_forwarders : List LocalForwarder) (shutdown : Watch) : ClientRun where
  phase := .spawn_socks5
  socks5 := .unspawned
  forward_task := .unspawned
  forward := run_local_forwarders local_forwarders shutdown
  signal := .unspawned
  reconnect := .unspawned

/-- The step is one of `run_local_forwarders` itself. -/
def ForwardStep.of_caller : ForwardStep → Bool
  | .spawn | .end_iteration | .spawned_all | .changed | .abort | .join => true
  | .task _ _ | .send _ | .drop_senders => false

/-- Where an abort of the caller takes effect: before its first poll and at its awaits. -/
def Forwarding.at_await (s : Forwarding) : Bool :=
  match s.phase with
  | .spawning => s.tasks.isEmpty
  | .waiting | .joining _ => true
  | .pushed | .aborting _ | .returned => false

namespace ClientRun

def send (s : ClientRun) (value : Bool) : ClientRun :=
  { s with forward := { s.forward with shutdown := s.forward.shutdown.send value } }

/-- The statements of `run` outside its `select!`. -/
def next (s : ClientRun) : Option ClientRun :=
  match s.phase with
  | .spawn_socks5 => some { s with phase := .spawn_forward, socks5 := .running }
  | .spawn_forward => some { s with phase := .spawn_signal, forward_task := .running }
  | .spawn_signal => some { s with phase := .spawn_reconnect, signal := .running }
  | .spawn_reconnect => some { s with phase := .select, reconnect := .running }
  | .select => none
  | .abort_reconnect => some { s with phase := .abort_signal, reconnect := .ended }
  | .abort_signal => some { s with phase := .send_shutdown, signal := .ended }
  | .send_shutdown => some { s.send true with phase := .disconnect }
  | .disconnect => some { s with phase := .drain }
  | .drain => some { s with phase := .abort_forward }
  | .abort_forward =>
    some { s with
      phase := .await_forward
      forward_task := if s.forward_task = .running then .aborted else s.forward_task }
  | .await_forward =>
    if s.forward_task = .ended then some { s with phase := .returned } else none
  | .returned => none

def step (s : ClientRun) : ClientStep → Option ClientRun
  | .next => s.next
  -- the task of the SOCKS5 server is not aborted here, its handle is only dropped
  | .select_shutdown =>
    if s.phase = .select ∧ s.forward.shutdown.changed then
      some { s with phase := .abort_reconnect }
    else none
  | .select_socks5 =>
    if s.phase = .select ∧ s.socks5 = .ended then some { s with phase := .abort_reconnect }
    else none
  -- `bind` or `accept` failed
  | .socks5_ends => if s.socks5 = .running then some { s with socks5 := .ended } else none
  -- without a handler for `SIGTERM` the task panics
  | .signal received =>
    if s.signal = .running then
      some { (if received then s.send true else s) with signal := .ended }
    else none
  | .reconnect_ends =>
    if s.reconnect = .running ∧ s.forward.shutdown.value then some { s with reconnect := .ended }
    else none
  | .send value => some (s.send value)
  | .forward (.task index i) =>
    (s.forward.step (.task index i)).map fun forward => { s with forward := forward }
  | .forward i =>
    if i.of_caller ∧ (s.forward_task = .running ∨ s.forward_task = .aborted) then
      (s.forward.step i).map fun forward =>
        { s with
          forward := forward
          forward_task := if forward.phase = .returned then .ended else s.forward_task }
    else none
  | .forward_cancelled =>
    if s.forward_task = .aborted ∧ s.forward.at_await then some { s with forward_task := .ended }
    else none

end ClientRun

end Alknet
