import Alknet.Call.Framing
import Alknet.Code.Interface.Bridge
import Alknet.Lib.Run

/-!
# What the control channel bridge delivers and writes

At every moment the events in the session's hands are the first frames of the channel, and the
bytes on the channel are the start of the queued envelopes' frames. The invariant says for each
place in the loop how far the two streams are.
-/

open Alknet.Lib Alknet.Lib.Chunked

namespace Alknet

variable {json : Json} {bytes : List UInt8} {identity : Option Identity} {bridge after : Bridge}
  {step : BridgeStep}

def Bridge.sent (bridge : Bridge) : List InterfaceEvent := bridge.received ++ bridge.event_queue

/-! ## What a step can do -/

/-- One case for each thing that happens. All the ways out of the loop are `leave`. -/
inductive Bridge.Moves (json : Json) (bridge : Bridge) : Bridge → Prop where
  | poll (hphase : bridge.phase = .selecting) (budget : Nat) :
    Moves json bridge (bridge.poll_frame json budget)
  | take {envelope : EventEnvelope} {rest : List EventEnvelope}
    (hphase : bridge.phase = .selecting) (hqueue : bridge.envelope_queue = envelope :: rest) :
    Moves json bridge
      { bridge with envelope_queue := rest, phase := .writing (encode json envelope) }
  | send {event : InterfaceEvent} (hphase : bridge.phase = .sending event) :
    Moves json bridge
      { bridge with event_queue := bridge.event_queue ++ [event], phase := .selecting }
  | write {rest : List UInt8} (hphase : bridge.phase = .writing rest) (n : Nat) :
    Moves json bridge
      { bridge with written := bridge.written ++ rest.take n, phase := .writing (rest.drop n) }
  | flush (hphase : bridge.phase = .writing []) :
    Moves json bridge { bridge with phase := .selecting }
  | leave : Moves json bridge { bridge with phase := .returned }
  | received {event : InterfaceEvent} {rest : List InterfaceEvent}
    (hqueue : bridge.event_queue = event :: rest) :
    Moves json bridge
      { bridge with event_queue := rest, received := bridge.received ++ [event] }
  | queued (envelope : EventEnvelope) :
    Moves json bridge
      { bridge with
        envelope_queue := bridge.envelope_queue ++ [envelope]
        queued := bridge.queued ++ [envelope] }
  | refused : Moves json bridge bridge
  | close_event_rx : Moves json bridge { bridge with event_rx_open := false }
  | close_envelope_tx : Moves json bridge { bridge with envelope_tx_open := false }

theorem recv_envelope_moves (hphase : bridge.phase = .selecting)
    (hrecv : bridge.recv_envelope json = some after) : bridge.Moves json after := by
  unfold Bridge.recv_envelope at hrecv
  split at hrecv
  · rename_i envelope rest hqueue
    obtain rfl := Option.some.inj hrecv
    exact .take hphase hqueue
  · split_ifs at hrecv
    obtain rfl := Option.some.inj hrecv
    exact .leave

theorem step_moves (hstep : bridge.step json step = some after) : bridge.Moves json after := by
  unfold Bridge.step at hstep
  split at hstep
  · rename_i hphase
    obtain rfl := Option.some.inj hstep
    exact .poll hphase _
  · rename_i hphase
    exact recv_envelope_moves hphase hstep
  -- the receiver may be gone, and the queue may be full
  · rename_i event hphase
    split_ifs at hstep
    · obtain rfl := Option.some.inj hstep
      exact .leave
    · obtain rfl := Option.some.inj hstep
      exact .send hphase
  · rename_i rest n hphase
    obtain rfl := Option.some.inj hstep
    exact .write hphase n
  · rename_i hphase
    obtain rfl := Option.some.inj hstep
    exact .flush hphase
  · obtain rfl := Option.some.inj hstep
    exact .leave
  · split at hstep
    · rename_i event rest hopen hqueue
      obtain rfl := Option.some.inj hstep
      exact .received hqueue
    · simp at hstep
  · obtain rfl := Option.some.inj hstep
    exact .refused
  · split_ifs at hstep
    obtain rfl := Option.some.inj hstep
    exact .queued _
  · obtain rfl := Option.some.inj hstep
    exact .close_event_rx
  · obtain rfl := Option.some.inj hstep
    exact .close_envelope_tx
  · simp at hstep

/-! ## Events -/

theorem framed_read_spec (json : Json) (budget : Nat) (reader : FrameFramedReader) :
    match (reader.read_frame json budget).1 with
    | none => (reader.read_frame json budget).2.pending = reader.pending
    | some (.ok (some envelope)) => FrameFramedReader.next_frame json reader.pending =
        some (.ok envelope, (reader.read_frame json budget).2.pending)
    | _ => True := by
  have hread := read_spec (framed_stable json) budget reader
  rw [framed_call, Reader.call]
  cases hgot : (reader.read (FrameFramedReader.next_frame json) budget).1 with
  | item r =>
    rw [hgot] at hread
    cases r with
    | ok envelope => exact hread
    | error e => trivial
  | ended => trivial
  | fault e => trivial
  | dropped =>
    rw [hgot] at hread
    exact hread

/-- The frames of `envelopes` are those taken off `bytes`, up to the place in the loop. -/
def EventsTaken (json : Json) (bytes : List UInt8) (identity : Option Identity)
    (envelopes : List EventEnvelope) (pending : List UInt8) : BridgePhase → Prop
  | .returned =>
    ∃ rest, Items (FrameFramedReader.next_frame json) (envelopes.map .ok) bytes rest
  | .sending event => ∃ envelope, event = ⟨envelope, identity⟩ ∧
      Items (FrameFramedReader.next_frame json) ((envelopes ++ [envelope]).map .ok) bytes pending
  | _ => Items (FrameFramedReader.next_frame json) (envelopes.map .ok) bytes pending

structure EventsInv (json : Json) (bytes : List UInt8) (identity : Option Identity)
    (bridge : Bridge) : Prop where
  same : bridge.identity = identity
  taken : ∃ envelopes, bridge.sent = envelopes.map (⟨·, identity⟩) ∧
    EventsTaken json bytes identity envelopes bridge.reader.pending bridge.phase

theorem EventsTaken.returned {envelopes : List EventEnvelope} {pending : List UInt8}
    {phase : BridgePhase} (h : EventsTaken json bytes identity envelopes pending phase) :
    EventsTaken json bytes identity envelopes pending .returned := by
  cases phase with
  | selecting => exact ⟨_, h⟩
  | writing rest => exact ⟨_, h⟩
  | returned => exact h
  | sending event =>
    obtain ⟨envelope, -, hitems⟩ := h
    rw [List.map_append, items_append] at hitems
    obtain ⟨mid, hmid, -⟩ := hitems
    exact ⟨mid, hmid⟩

theorem EventsInv.quiet (h : EventsInv json bytes identity bridge)
    (hsame : after.identity = bridge.identity) (hsent : after.sent = bridge.sent)
    (hphase : ∀ envelopes,
      EventsTaken json bytes identity envelopes bridge.reader.pending bridge.phase →
        EventsTaken json bytes identity envelopes after.reader.pending after.phase) :
    EventsInv json bytes identity after := by
  obtain ⟨envelopes, heq, htaken⟩ := h.taken
  exact ⟨hsame.trans h.same, envelopes, hsent.trans heq, hphase envelopes htaken⟩

theorem poll_frame_events (h : EventsInv json bytes identity bridge)
    (hphase : bridge.phase = .selecting) (budget : Nat) :
    EventsInv json bytes identity (bridge.poll_frame json budget) := by
  have hread := framed_read_spec json budget bridge.reader
  unfold Bridge.poll_frame
  rcases hframe : bridge.reader.read_frame json budget with ⟨result, reader⟩
  rw [hframe] at hread
  match result with
  | none =>
    refine h.quiet rfl rfl fun envelopes htaken => ?_
    simpa [show reader.pending = _ from hread] using htaken
  | some (.ok none) => exact h.quiet rfl rfl fun _ => EventsTaken.returned
  | some (.error e) => exact h.quiet rfl rfl fun _ => EventsTaken.returned
  | some (.ok (some envelope)) =>
    refine h.quiet rfl rfl fun envelopes htaken => ⟨envelope, by rw [h.same], ?_⟩
    rw [hphase] at htaken
    rw [List.map_append, items_append]
    exact ⟨_, htaken, _, hread, rfl⟩

theorem moves_events (h : EventsInv json bytes identity bridge) (hmove : bridge.Moves json after) :
    EventsInv json bytes identity after := by
  cases hmove with
  | poll hphase budget => exact poll_frame_events h hphase budget
  | take hphase hqueue =>
    refine h.quiet rfl rfl fun envelopes htaken => ?_
    rwa [hphase] at htaken
  | send hphase =>
    obtain ⟨envelopes, heq, htaken⟩ := h.taken
    rw [hphase] at htaken
    obtain ⟨envelope, rfl, hitems⟩ := htaken
    refine ⟨h.same, envelopes ++ [envelope], ?_, hitems⟩
    unfold Bridge.sent at heq ⊢
    rw [← List.append_assoc, heq, List.map_append]
    rfl
  | write hphase n =>
    refine h.quiet rfl rfl fun envelopes htaken => ?_
    rwa [hphase] at htaken
  | flush hphase =>
    refine h.quiet rfl rfl fun envelopes htaken => ?_
    rwa [hphase] at htaken
  | leave => exact h.quiet rfl rfl fun _ => EventsTaken.returned
  | received hqueue => exact h.quiet rfl (by simp [Bridge.sent, hqueue]) fun _ htaken => htaken
  | queued envelope => exact h.quiet rfl rfl fun _ htaken => htaken
  | refused => exact h
  | close_event_rx => exact h.quiet rfl rfl fun _ htaken => htaken
  | close_envelope_tx => exact h.quiet rfl rfl fun _ htaken => htaken

/-! ## Frames on the channel -/

/-- How much of the frames of `envelopes` is written, by the place in the loop. -/
def FramesWritten (json : Json) (envelopes : List EventEnvelope) (written : List UInt8) :
    BridgePhase → Prop
  | .returned => written <+: envelopes.flatMap (encode json)
  | .writing rest => written ++ rest = envelopes.flatMap (encode json)
  | _ => written = envelopes.flatMap (encode json)

/-- The queued envelopes are those that the bridge took and those that wait. -/
def FramesInv (json : Json) (bridge : Bridge) : Prop :=
  ∃ envelopes, bridge.queued = envelopes ++ bridge.envelope_queue ∧
    FramesWritten json envelopes bridge.written bridge.phase

theorem FramesWritten.returned {envelopes : List EventEnvelope} {written : List UInt8}
    {phase : BridgePhase} (h : FramesWritten json envelopes written phase) :
    FramesWritten json envelopes written .returned := by
  cases phase with
  | selecting => exact h ▸ List.prefix_rfl
  | sending event => exact h ▸ List.prefix_rfl
  | writing rest => exact ⟨rest, h⟩
  | returned => exact h

theorem FramesInv.quiet (h : FramesInv json bridge) (hqueued : after.queued = bridge.queued)
    (hqueue : after.envelope_queue = bridge.envelope_queue)
    (hphase : ∀ envelopes, FramesWritten json envelopes bridge.written bridge.phase →
      FramesWritten json envelopes after.written after.phase) : FramesInv json after := by
  obtain ⟨envelopes, heq, hwritten⟩ := h
  exact ⟨envelopes, by rw [hqueued, hqueue, heq], hphase envelopes hwritten⟩

theorem poll_frame_frames (h : FramesInv json bridge) (hphase : bridge.phase = .selecting)
    (budget : Nat) : FramesInv json (bridge.poll_frame json budget) := by
  unfold Bridge.poll_frame
  split
  · exact h.quiet rfl rfl fun _ hwritten => hwritten
  · exact h.quiet rfl rfl fun _ hwritten => by rwa [hphase] at hwritten
  · exact h.quiet rfl rfl fun _ => FramesWritten.returned
  · exact h.quiet rfl rfl fun _ => FramesWritten.returned

theorem moves_frames (h : FramesInv json bridge) (hmove : bridge.Moves json after) :
    FramesInv json after := by
  cases hmove with
  | poll hphase budget => exact poll_frame_frames h hphase budget
  -- none of the frame is written yet
  | @take envelope rest hphase hqueue =>
    obtain ⟨envelopes, heq, hwritten⟩ := h
    rw [hphase] at hwritten
    have hall : bridge.written = envelopes.flatMap (encode json) := hwritten
    refine ⟨envelopes ++ [envelope], by simp [heq, hqueue], ?_⟩
    unfold FramesWritten
    rw [hall, List.flatMap_append, List.flatMap_singleton]
  | send hphase =>
    refine h.quiet rfl rfl fun envelopes hwritten => ?_
    rwa [hphase] at hwritten
  | @write rest hphase n =>
    refine h.quiet rfl rfl fun envelopes hwritten => ?_
    rw [hphase] at hwritten
    simp only [FramesWritten] at hwritten ⊢
    rw [List.append_assoc, List.take_append_drop]
    exact hwritten
  | flush hphase =>
    refine h.quiet rfl rfl fun envelopes hwritten => ?_
    rw [hphase] at hwritten
    simp only [FramesWritten] at hwritten ⊢
    rwa [List.append_nil] at hwritten
  | leave => exact h.quiet rfl rfl fun _ => FramesWritten.returned
  | received hqueue => exact h.quiet rfl rfl fun _ hwritten => hwritten
  | queued envelope =>
    obtain ⟨envelopes, heq, hwritten⟩ := h
    exact ⟨envelopes, by simp [heq], hwritten⟩
  | refused => exact h
  | close_event_rx => exact h.quiet rfl rfl fun _ hwritten => hwritten
  | close_envelope_tx => exact h.quiet rfl rfl fun _ hwritten => hwritten

theorem FramesInv.written_queued (h : FramesInv json bridge) :
    bridge.written <+: bridge.queued.flatMap (encode json) := by
  obtain ⟨envelopes, heq, hwritten⟩ := h
  rw [heq, List.flatMap_append]
  exact (show bridge.written <+: _ from hwritten.returned).trans (List.prefix_append _ _)

/-! ## After the return -/

/-- `after` has returned, and sent and wrote what `bridge` did. -/
def Silent (bridge after : Bridge) : Prop :=
  after.phase = .returned ∧ after.sent = bridge.sent ∧ after.written = bridge.written

theorem moves_returned (hphase : bridge.phase = .returned) (hmove : bridge.Moves json after) :
    Silent bridge after := by
  cases hmove with
  | poll hother => simp [hphase] at hother
  | take hother => simp [hphase] at hother
  | send hother => simp [hphase] at hother
  | write hother => simp [hphase] at hother
  | flush hother => simp [hphase] at hother
  | leave => exact ⟨rfl, rfl, rfl⟩
  | received hqueue => exact ⟨hphase, by simp [Bridge.sent, hqueue], rfl⟩
  | queued envelope => exact ⟨hphase, rfl, rfl⟩
  | refused => exact ⟨hphase, rfl, rfl⟩
  | close_event_rx => exact ⟨hphase, rfl, rfl⟩
  | close_envelope_tx => exact ⟨hphase, rfl, rfl⟩

/-! ## Whole runs -/

/-- **The bridge** hands over the first frames of the channel, and writes a start of the queued
envelopes. -/
theorem bridge_in_order (json : Json) (identity : Option Identity)
    (stream : List (Event UInt8 IoError)) (bodies : List (List UInt8)) (residue : List UInt8)
    (hf : Framed (stream.flatMap Event.bytes) bodies residue) (steps : List BridgeStep)
    (bridge : Bridge)
    (hrun : run (Bridge.step json) (Bridge.new identity stream) steps = some bridge) :
    (∃ envelopes : List EventEnvelope,
      bridge.received ++ bridge.event_queue = envelopes.map (⟨·, identity⟩) ∧
      envelopes.map .ok <+: bodies.map json.from_slice) ∧
    bridge.written <+: bridge.queued.flatMap (encode json) ∧
    (bridge.phase = .returned →
      ∀ later last, run (Bridge.step json) bridge later = some last →
        last.received ++ last.event_queue = bridge.received ++ bridge.event_queue ∧
        last.written = bridge.written) := by
  refine ⟨?_, ?_, ?_⟩
  · have hnew : EventsInv json (stream.flatMap Event.bytes) identity
        (Bridge.new identity stream) := ⟨rfl, [], rfl, rfl⟩
    have hinv := run_keeps (fun _ _ _ h hstep => moves_events h (step_moves hstep)) hnew hrun
    obtain ⟨envelopes, heq, htaken⟩ := hinv.taken
    obtain ⟨rest, hitems⟩ := htaken.returned
    exact ⟨envelopes, heq, (framed_items hf hitems).1⟩
  · have hnew : FramesInv json (Bridge.new identity stream) := ⟨[], rfl, rfl⟩
    have hinv := run_keeps (fun _ _ _ h hstep => moves_frames h (step_moves hstep)) hnew hrun
    exact hinv.written_queued
  · intro hphase later last hlater
    have hsilent : Silent bridge bridge := ⟨hphase, rfl, rfl⟩
    have hkeeps : Silent bridge last := by
      refine run_keeps (fun b step b' h hstep => ?_) hsilent hlater
      obtain ⟨hp, hs, hw⟩ := moves_returned h.1 (step_moves hstep)
      exact ⟨hp, hs.trans h.2.1, hw.trans h.2.2⟩
    exact hkeeps.2

def sampleSteps : List BridgeStep :=
  [.poll_frame 2, .send_event, .session_send sampleEnvelope, .recv_envelope, .write 3]

theorem bridge_in_order_sample :
    ∃ bridge, run (Bridge.step sampleJson)
        (Bridge.new none [.data (frame sampleBody) (by decide)]) sampleSteps = some bridge ∧
      bridge.event_queue = [⟨sampleEnvelope, none⟩] ∧
      bridge.written <+: bridge.queued.flatMap (encode sampleJson) := by
  obtain ⟨bridge, hrun, hqueue⟩ : ∃ bridge, run (Bridge.step sampleJson)
      (Bridge.new none [.data (frame sampleBody) (by decide)]) sampleSteps = some bridge ∧
      bridge.event_queue = [⟨sampleEnvelope, none⟩] := ⟨_, rfl, rfl⟩
  have horder := bridge_in_order sampleJson none [.data (frame sampleBody) (by decide)]
    [sampleBody] [] ⟨by decide, by decide, by decide⟩ sampleSteps bridge hrun
  exact ⟨bridge, hrun, hqueue, horder.2.1⟩

end Alknet
