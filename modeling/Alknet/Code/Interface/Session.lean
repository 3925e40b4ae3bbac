import Alknet.Code.Interface.Bridge

/-!
# The session of an SSH connection, `SshSession` in `interface/ssh.rs`

`recv` and `send` are the other ends of the bridge's two queues. Both borrow the session, so its
owner has at most one of them under way, and may drop it before it returns. Until the peer opens the
control channel the SSH handler has the bridge's ends of the queues, and drops them if it ends
first: `bridge_event_tx`, then `bridge_envelope_rx`.
-/

open Alknet.Lib.Chunked

namespace Alknet

inductive OwnerCall where
  | recv
  | send (envelope : EventEnvelope)

inductive OwnerResult where
  | received (event : Option InterfaceEvent)
  | sent (envelope : EventEnvelope) (ok : Bool)

def BridgePhase.is_returned : BridgePhase → Bool
  | .returned => true
  | _ => false

/-- The steps of the bridge itself and of its channel. -/
def BridgeStep.of_bridge : BridgeStep → Bool
  | .session_recv | .session_send _ | .close_event_rx | .close_envelope_tx => false
  | _ => true

structure ControlSession where
  bridge : Bridge
  /-- The handler has handed its ends of the queues to the bridge. -/
  opened : Bool
  /-- The handler has not dropped its `bridge_event_tx`. -/
  event_tx_open : Bool
  /-- The call that is under way. -/
  call : Option OwnerCall
  /-- What the calls returned. -/
  results : List OwnerResult

inductive ControlStep where
  | call (call : OwnerCall)
  /-- The call returns. -/
  | finish
  /-- The call is dropped. -/
  | give_up
  /-- The session is dropped. -/
  | drop
  /-- The peer opens the control channel. -/
  | channel_open
  /-- The handler is dropped, and its ends of the queues one after the other. -/
  | drop_event_tx
  | drop_envelope_rx
  | bridge (step : BridgeStep)

namespace ControlSession

/-- `identity` is that of the handler when the channel is opened, `stream` what comes over it. -/
def new (identity : Option Identity) (stream : List (Event UInt8 IoError)) : ControlSession where
  bridge := .new identity stream
  opened := false
  event_tx_open := true
  call := none
  results := []

/-- `event_rx.recv()`. It gives `None` when the queue is empty and its sender is gone. -/
def recv (json : Json) (s : ControlSession) : Option (Option InterfaceEvent × Bridge) :=
  match s.bridge.event_queue with
  | event :: _ => (s.bridge.step json .session_recv).map fun bridge => (some event, bridge)
  | [] =>
    if s.bridge.phase.is_returned || !s.event_tx_open then some (none, s.bridge) else none

/-- `envelope_tx.send(envelope)`. It is an error when the receiver is gone. -/
def send (json : Json) (envelope : EventEnvelope) (s : ControlSession) : Option (Bool × Bridge) :=
  (s.bridge.step json (.session_send envelope)).map fun bridge =>
    (!s.bridge.phase.is_returned, bridge)

def finish (json : Json) (s : ControlSession) : OwnerCall → Option ControlSession
  | .recv => (s.recv json).map fun (event, bridge) =>
    { s with bridge, call := none, results := s.results ++ [.received event] }
  | .send envelope => (s.send json envelope).map fun (ok, bridge) =>
    { s with bridge, call := none, results := s.results ++ [.sent envelope ok] }

/-- `none` for a step that is not possible in the state. -/
def step (json : Json) (s : ControlSession) : ControlStep → Option ControlSession
  | .call call =>
    if s.call.isNone && s.bridge.event_rx_open then some { s with call := some call } else none
  | .finish => s.call.bind (s.finish json)
  | .give_up => if s.call.isSome then some { s with call := none } else none
  | .drop =>
    if s.call.isNone && s.bridge.event_rx_open then
      some { s with bridge := { s.bridge with event_rx_open := false, envelope_tx_open := false } }
    else none
  | .channel_open =>
    if !s.opened && s.event_tx_open then some { s with opened := true } else none
  | .drop_event_tx =>
    if !s.opened && s.event_tx_open then some { s with event_tx_open := false } else none
  | .drop_envelope_rx =>
    if !s.event_tx_open && !s.bridge.phase.is_returned then
      some { s with bridge := { s.bridge with phase := .returned } }
    else none
  | .bridge step =>
    if s.opened && step.of_bridge then (s.bridge.step json step).map fun bridge => { s with bridge }
    else none

end ControlSession

end Alknet
