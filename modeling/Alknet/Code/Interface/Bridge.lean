import Alknet.Code.Call.Frame

/-!
# The control channel bridge, `interface/ssh.rs`

`run_control_channel_bridge` between an SSH channel and the two bounded queues of a session. A step
is one thing that the bridge, its channel or the session does. `select!` may take either branch
that is ready, so both are steps.
-/

open Alknet.Lib.Chunked

namespace Alknet

def QUEUE_CAPACITY : Nat := 256

inductive BridgePhase where
  | selecting
  | sending (event : InterfaceEvent)
  | writing (rest : List UInt8)
  | returned

structure Bridge where
  identity : Option Identity
  reader : FrameFramedReader
  /-- Events in the session's queue, and those that the session took out of it. -/
  event_queue : List InterfaceEvent
  received : List InterfaceEvent
  event_rx_open : Bool
  /-- Envelopes in the bridge's queue, and all that were ever put there. -/
  envelope_queue : List EventEnvelope
  queued : List EventEnvelope
  envelope_tx_open : Bool
  /-- The bytes that went to the channel. -/
  written : List UInt8
  phase : BridgePhase

def Bridge.new (identity : Option Identity) (stream : List (Event UInt8 IoError)) : Bridge where
  identity := identity
  reader := ⟨stream, []⟩
  event_queue := []
  received := []
  event_rx_open := true
  envelope_queue := []
  queued := []
  envelope_tx_open := true
  written := []
  phase := .selecting

inductive BridgeStep where
  /-- `read_frame` is polled for `budget` reads. -/
  | poll_frame (budget : Nat)
  /-- `envelope_rx.recv` is ready. -/
  | recv_envelope
  /-- `event_tx.send` finishes. -/
  | send_event
  /-- The channel takes `n` bytes of the frame. -/
  | write (n : Nat)
  | flush
  | write_error
  | session_recv
  | session_send (envelope : EventEnvelope)
  | close_event_rx
  | close_envelope_tx

/-- The `read_frame` branch of `select!`. A call without a result leaves its bytes in the buffer,
and the next call goes on from there. -/
def Bridge.poll_frame (json : Json) (budget : Nat) (bridge : Bridge) : Bridge :=
  match bridge.reader.read_frame json budget with
  | (none, reader) => { bridge with reader }
  | (some (.ok (some envelope)), reader) =>
    { bridge with reader, phase := .sending ⟨envelope, bridge.identity⟩ }
  | (some (.ok none), reader) => { bridge with reader, phase := .returned }
  | (some (.error _), reader) => { bridge with reader, phase := .returned }

/-- The `envelope_rx.recv` branch of `select!`. It is ready when there is an envelope, or when no
sender is left. -/
def Bridge.recv_envelope (json : Json) (bridge : Bridge) : Option Bridge :=
  match bridge.envelope_queue with
  | envelope :: envelope_queue =>
    some { bridge with envelope_queue, phase := .writing (encode json envelope) }
  | [] => if bridge.envelope_tx_open then none else some { bridge with phase := .returned }

/-- `none` for a step that is not possible in the state. -/
def Bridge.step (json : Json) (bridge : Bridge) (step : BridgeStep) : Option Bridge :=
  match bridge.phase, step with
  | .selecting, .poll_frame budget => some (bridge.poll_frame json budget)
  | .selecting, .recv_envelope => bridge.recv_envelope json
  | .sending event, .send_event =>
    if !bridge.event_rx_open then some { bridge with phase := .returned }
    else if bridge.event_queue.length < QUEUE_CAPACITY then
      some { bridge with event_queue := bridge.event_queue ++ [event], phase := .selecting }
    else none
  | .writing rest, .write n =>
    some { bridge with written := bridge.written ++ rest.take n, phase := .writing (rest.drop n) }
  | .writing [], .flush => some { bridge with phase := .selecting }
  | .writing _, .write_error => some { bridge with phase := .returned }
  | _, .session_recv =>
    match bridge.event_rx_open, bridge.event_queue with
    | true, event :: event_queue =>
      some { bridge with event_queue, received := bridge.received ++ [event] }
    | _, _ => none
  | .returned, .session_send _ => some bridge
  | _, .session_send envelope =>
    if bridge.envelope_tx_open && decide (bridge.envelope_queue.length < QUEUE_CAPACITY) then
      some { bridge with
        envelope_queue := bridge.envelope_queue ++ [envelope]
        queued := bridge.queued ++ [envelope] }
    else none
  | _, .close_event_rx => some { bridge with event_rx_open := false }
  | _, .close_envelope_tx => some { bridge with envelope_tx_open := false }
  | _, _ => none

end Alknet
