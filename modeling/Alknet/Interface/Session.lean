import Alknet.Code.Interface.Session
import Alknet.Interface.Bridge

/-!
# What the calls of a session return, and when they do

The bridge puts an event in its queue before it looks at the other queue again, and the owner of the
session cannot take an event while its own `send` waits. So each may wait for the other: when both
queues are full, for good.
-/

open Alknet.Lib Alknet.Lib.Chunked

namespace Alknet

theorem BridgePhase.is_returned_iff {phase : BridgePhase} :
    phase.is_returned = true ↔ phase = .returned := by
  cases phase <;> simp [BridgePhase.is_returned]

/-- What the bridge, its channel and the peer may do while a call is under way, and a handler whose
drop has begun. -/
def ControlStep.of_others : ControlStep → Bool
  | .channel_open | .drop_envelope_rx | .bridge _ => true
  | _ => false

namespace OwnerResult

/-- The event that a `recv` gave. -/
def event : OwnerResult → Option InterfaceEvent
  | .received event => event
  | .sent _ _ => none

/-- The envelope that a `send` took. -/
def accepted : OwnerResult → Option EventEnvelope
  | .sent envelope true => some envelope
  | _ => none

/-- A `recv` gave `None`. -/
def is_ended : OwnerResult → Bool
  | .received none => true
  | _ => false

/-- A `send` was an error. -/
def is_refused : OwnerResult → Bool
  | .sent _ false => true
  | _ => false

end OwnerResult

/-! ## Single steps of the bridge -/

section

variable {json : Json} {bridge : Bridge}

theorem step_session_recv {event : InterfaceEvent} {rest : List InterfaceEvent}
    (hopen : bridge.event_rx_open = true) (hqueue : bridge.event_queue = event :: rest) :
    bridge.step json .session_recv =
      some { bridge with event_queue := rest, received := bridge.received ++ [event] } := by
  unfold Bridge.step
  cases bridge.phase <;> simp only [hopen, hqueue]

theorem step_session_send_returned (envelope : EventEnvelope) (hphase : bridge.phase = .returned) :
    bridge.step json (.session_send envelope) = some bridge := by
  unfold Bridge.step
  rw [hphase]

theorem step_session_send (envelope : EventEnvelope) (hphase : bridge.phase ≠ .returned) :
    bridge.step json (.session_send envelope) =
      if bridge.envelope_tx_open && decide (bridge.envelope_queue.length < QUEUE_CAPACITY) then
        some { bridge with
          envelope_queue := bridge.envelope_queue ++ [envelope]
          queued := bridge.queued ++ [envelope] }
      else none := by
  unfold Bridge.step
  cases h : bridge.phase with
  | returned => exact absurd h hphase
  | _ => rfl

theorem step_send_event {event : InterfaceEvent} (hphase : bridge.phase = .sending event)
    (hopen : bridge.event_rx_open = true) :
    bridge.step json .send_event =
      if bridge.event_queue.length < QUEUE_CAPACITY then
        some { bridge with event_queue := bridge.event_queue ++ [event], phase := .selecting }
      else none := by
  unfold Bridge.step
  rw [hphase]
  simp [hopen]

theorem step_poll_frame (budget : Nat) (hphase : bridge.phase = .selecting) :
    bridge.step json (.poll_frame budget) = some (bridge.poll_frame json budget) := by
  unfold Bridge.step
  rw [hphase]

theorem step_recv_envelope {envelope : EventEnvelope} {rest : List EventEnvelope}
    (hphase : bridge.phase = .selecting) (hqueue : bridge.envelope_queue = envelope :: rest) :
    bridge.step json .recv_envelope =
      some { bridge with envelope_queue := rest, phase := .writing (encode json envelope) } := by
  unfold Bridge.step
  rw [hphase]
  simp only [Bridge.recv_envelope, hqueue]

theorem step_write_all {rest : List UInt8} (hphase : bridge.phase = .writing rest) :
    bridge.step json (.write rest.length) =
      some { bridge with written := bridge.written ++ rest, phase := .writing [] } := by
  unfold Bridge.step
  rw [hphase]
  simp only [List.take_length, List.drop_length]

end

namespace ControlSession

variable {json : Json} {s s' : ControlSession} {i : ControlStep}

/-! ## What a step can do -/

inductive Does (json : Json) (s : ControlSession) : ControlStep → ControlSession → Prop
  | call (call : OwnerCall) (hidle : s.call = none) (hopen : s.bridge.event_rx_open = true) :
    Does json s (.call call) { s with call := some call }
  | received {event : InterfaceEvent} {rest : List InterfaceEvent} (hcall : s.call = some .recv)
    (hqueue : s.bridge.event_queue = event :: rest) :
    Does json s .finish { s with
      bridge := { s.bridge with
        event_queue := rest, received := s.bridge.received ++ [event] }
      call := none, results := s.results ++ [.received (some event)] }
  | ended (hcall : s.call = some .recv) (hqueue : s.bridge.event_queue = [])
    (hgone : s.bridge.phase = .returned ∨ s.event_tx_open = false) :
    Does json s .finish { s with call := none, results := s.results ++ [.received none] }
  | queued {envelope : EventEnvelope} (hcall : s.call = some (.send envelope))
    (hphase : s.bridge.phase ≠ .returned) (hopen : s.bridge.envelope_tx_open = true)
    (hroom : s.bridge.envelope_queue.length < QUEUE_CAPACITY) :
    Does json s .finish { s with
      bridge := { s.bridge with
        envelope_queue := s.bridge.envelope_queue ++ [envelope]
        queued := s.bridge.queued ++ [envelope] }
      call := none, results := s.results ++ [.sent envelope true] }
  | refused {envelope : EventEnvelope} (hcall : s.call = some (.send envelope))
    (hphase : s.bridge.phase = .returned) :
    Does json s .finish { s with call := none, results := s.results ++ [.sent envelope false] }
  | give_up (hcall : s.call ≠ none) : Does json s .give_up { s with call := none }
  | drop (hidle : s.call = none) :
    Does json s .drop { s with
      bridge := { s.bridge with event_rx_open := false, envelope_tx_open := false } }
  | channel_open (hopened : s.opened = false) (htx : s.event_tx_open = true) :
    Does json s .channel_open { s with opened := true }
  | drop_event_tx (hopened : s.opened = false) (htx : s.event_tx_open = true) :
    Does json s .drop_event_tx { s with event_tx_open := false }
  | drop_envelope_rx (htx : s.event_tx_open = false) (hphase : s.bridge.phase ≠ .returned) :
    Does json s .drop_envelope_rx { s with bridge := { s.bridge with phase := .returned } }
  | bridge {step : BridgeStep} {bridge : Bridge} (hopened : s.opened = true)
    (hown : step.of_bridge = true) (hstep : s.bridge.step json step = some bridge) :
    Does json s (.bridge step) { s with bridge := bridge }

theorem recv_does {result : Option InterfaceEvent × Bridge} (hcall : s.call = some .recv)
    (h : s.recv json = some result) :
    Does json s .finish { s with
      bridge := result.2, call := none, results := s.results ++ [.received result.1] } := by
  unfold recv at h
  split at h
  · rename_i event rest hqueue
    obtain ⟨bridge, hbridge, rfl⟩ := Option.map_eq_some_iff.mp h
    by_cases hopen : s.bridge.event_rx_open = true
    · rw [step_session_recv hopen hqueue] at hbridge
      cases hbridge
      exact .received hcall hqueue
    · unfold Bridge.step at hbridge
      cases hphase : s.bridge.phase <;> simp [hphase, hopen] at hbridge
  · rename_i hqueue
    obtain ⟨hgone, h⟩ := Option.ite_none_right_eq_some.mp h
    cases h
    rw [Bool.or_eq_true, Bool.not_eq_true', BridgePhase.is_returned_iff] at hgone
    exact .ended hcall hqueue hgone

theorem send_does {envelope : EventEnvelope} {result : Bool × Bridge}
    (hcall : s.call = some (.send envelope)) (h : s.send json envelope = some result) :
    Does json s .finish { s with
      bridge := result.2, call := none, results := s.results ++ [.sent envelope result.1] } := by
  obtain ⟨bridge, hbridge, rfl⟩ := Option.map_eq_some_iff.mp h
  by_cases hphase : s.bridge.phase = .returned
  · rw [step_session_send_returned envelope hphase] at hbridge
    cases hbridge
    rw [hphase]
    exact .refused hcall hphase
  · rw [step_session_send envelope hphase] at hbridge
    obtain ⟨hroom, hbridge⟩ := Option.ite_none_right_eq_some.mp hbridge
    cases hbridge
    obtain ⟨hopen, hroom⟩ := Bool.and_eq_true_iff.mp hroom
    rw [Bool.eq_false_iff.mpr (mt BridgePhase.is_returned_iff.mp hphase)]
    exact .queued hcall hphase hopen (of_decide_eq_true hroom)

theorem step_does (h : step json s i = some s') : Does json s i s' := by
  cases i with
  | call call =>
    obtain ⟨hready, h⟩ := Option.ite_none_right_eq_some.mp h
    cases h
    obtain ⟨hidle, hopen⟩ := Bool.and_eq_true_iff.mp hready
    exact .call call (Option.isNone_iff_eq_none.mp hidle) hopen
  | finish =>
    obtain ⟨call, hcall, h⟩ := Option.bind_eq_some_iff.mp h
    cases call with
    | recv =>
      obtain ⟨result, hresult, rfl⟩ := Option.map_eq_some_iff.mp h
      exact recv_does hcall hresult
    | send envelope =>
      obtain ⟨result, hresult, rfl⟩ := Option.map_eq_some_iff.mp h
      exact send_does hcall hresult
  | give_up =>
    obtain ⟨hcall, h⟩ := Option.ite_none_right_eq_some.mp h
    cases h
    exact .give_up (Option.isSome_iff_ne_none.mp hcall)
  | drop =>
    obtain ⟨hready, h⟩ := Option.ite_none_right_eq_some.mp h
    cases h
    exact .drop (Option.isNone_iff_eq_none.mp (Bool.and_eq_true_iff.mp hready).1)
  | channel_open =>
    obtain ⟨hready, h⟩ := Option.ite_none_right_eq_some.mp h
    cases h
    rw [Bool.and_eq_true, Bool.not_eq_true'] at hready
    exact .channel_open hready.1 hready.2
  | drop_event_tx =>
    obtain ⟨hready, h⟩ := Option.ite_none_right_eq_some.mp h
    cases h
    rw [Bool.and_eq_true, Bool.not_eq_true'] at hready
    exact .drop_event_tx hready.1 hready.2
  | drop_envelope_rx =>
    obtain ⟨hready, h⟩ := Option.ite_none_right_eq_some.mp h
    cases h
    obtain ⟨htx, hphase⟩ := Bool.and_eq_true_iff.mp hready
    rw [Bool.not_eq_true'] at htx
    rw [Bool.not_eq_true', Bool.eq_false_iff, ne_eq, BridgePhase.is_returned_iff] at hphase
    exact .drop_envelope_rx htx hphase
  | bridge step =>
    obtain ⟨hready, h⟩ := Option.ite_none_right_eq_some.mp h
    obtain ⟨hopened, hown⟩ := Bool.and_eq_true_iff.mp hready
    obtain ⟨bridge, hbridge, rfl⟩ := Option.map_eq_some_iff.mp h
    exact .bridge hopened hown hbridge

/-! ## What holds in every state -/

/-- How full the queues are, and who has their ends. -/
structure Kept (s : ControlSession) : Prop where
  events : s.bridge.event_queue.length ≤ QUEUE_CAPACITY
  envelopes : s.bridge.envelope_queue.length ≤ QUEUE_CAPACITY
  calling : s.call ≠ none → s.bridge.event_rx_open = true ∧ s.bridge.envelope_tx_open = true
  ends : s.bridge.event_rx_open = s.bridge.envelope_tx_open
  unopened : s.opened = false → s.bridge.phase = .selecting ∨
    s.bridge.phase = .returned ∧ s.event_tx_open = false
  dropping : s.event_tx_open = false → s.opened = false

theorem kept_new (identity : Option Identity) (stream : List (Event UInt8 IoError)) :
    Kept (new identity stream) :=
  ⟨Nat.zero_le _, Nat.zero_le _, fun h => absurd rfl h, rfl, fun _ => .inl rfl, nofun⟩

/-- How a step of the bridge leaves the queues and what went through them. -/
structure LeavesQueues (bridge bridge' : Bridge) : Prop where
  events : bridge'.event_queue.length ≤ max QUEUE_CAPACITY bridge.event_queue.length
  envelopes : bridge'.envelope_queue.length ≤ bridge.envelope_queue.length
  event_rx : bridge'.event_rx_open = bridge.event_rx_open
  envelope_tx : bridge'.envelope_tx_open = bridge.envelope_tx_open
  received : bridge'.received = bridge.received
  queued : bridge'.queued = bridge.queued

theorem leavesQueues_refl (bridge : Bridge) : LeavesQueues bridge bridge :=
  ⟨Nat.le_max_right .., Nat.le_refl _, rfl, rfl, rfl, rfl⟩

theorem poll_frame_leavesQueues (bridge : Bridge) (budget : Nat) :
    LeavesQueues bridge (bridge.poll_frame json budget) := by
  have h := leavesQueues_refl bridge
  unfold Bridge.poll_frame
  split <;> exact { h with }

theorem recv_envelope_leavesQueues {bridge bridge' : Bridge}
    (h : bridge.recv_envelope json = some bridge') : LeavesQueues bridge bridge' := by
  have hrefl := leavesQueues_refl bridge
  unfold Bridge.recv_envelope at h
  split at h
  · rename_i envelope rest hqueue
    cases h
    exact { hrefl with envelopes := by rw [hqueue]; exact Nat.le_succ _ }
  · split at h
    · cases h
    · cases h
      exact { hrefl with }

theorem of_bridge_leavesQueues {step : BridgeStep} {bridge bridge' : Bridge}
    (hown : step.of_bridge = true) (h : bridge.step json step = some bridge') :
    LeavesQueues bridge bridge' := by
  have hrefl := leavesQueues_refl bridge
  unfold Bridge.step at h
  split at h
  · cases h
    exact poll_frame_leavesQueues ..
  · exact recv_envelope_leavesQueues h
  -- `event_tx.send`, to a receiver that may be gone
  · split at h
    · cases h
      exact { hrefl with }
    · obtain ⟨hroom, h⟩ := Option.ite_none_right_eq_some.mp h
      cases h
      refine { hrefl with events := ?_ }
      rw [List.length_append]
      exact (Nat.succ_le_of_lt hroom).trans (Nat.le_max_left ..)
  · cases h
    exact { hrefl with }
  · cases h
    exact { hrefl with }
  · cases h
    exact { hrefl with }
  -- the other steps are the session's
  all_goals first | cases hown | cases h

theorem of_bridge_running {step : BridgeStep} {bridge bridge' : Bridge}
    (hown : step.of_bridge = true) (h : bridge.step json step = some bridge') :
    bridge.phase ≠ .returned := by
  intro hphase
  unfold Bridge.step at h
  rw [hphase] at h
  cases step with
  | session_recv | session_send _ | close_event_rx | close_envelope_tx => cases hown
  | _ => cases h

theorem Kept.step (h : Kept s) (hstep : step json s i = some s') : Kept s' := by
  cases step_does hstep with
  | call call hidle hopen =>
    exact { h with calling := fun _ => ⟨hopen, h.ends.symm.trans hopen⟩ }
  | @received event rest hcall hqueue =>
    refine { h with events := ?_, calling := fun hnone => absurd rfl hnone }
    have hevents := h.events
    rw [hqueue, List.length_cons] at hevents
    exact Nat.le_of_succ_le hevents
  | ended | refused | give_up => exact { h with calling := fun hnone => absurd rfl hnone }
  | queued hcall hphase hopen hroom =>
    refine { h with envelopes := ?_, calling := fun hnone => absurd rfl hnone }
    rw [List.length_append]
    exact hroom
  | drop hidle => exact { h with calling := fun hcall => absurd hidle hcall, ends := rfl }
  | channel_open hopened htx =>
    exact { h with
      unopened := nofun
      dropping := fun hgone => by rw [htx] at hgone; cases hgone }
  | drop_event_tx hopened htx =>
    exact { h with
      unopened := fun _ => (h.unopened hopened).imp_right fun hgone => ⟨hgone.1, rfl⟩
      dropping := fun _ => hopened }
  | drop_envelope_rx htx => exact { h with unopened := fun _ => .inr ⟨rfl, htx⟩ }
  | bridge hopened hown hmoved =>
    have hleaves := of_bridge_leavesQueues hown hmoved
    exact {
      events := hleaves.events.trans (max_le (Nat.le_refl _) h.events)
      envelopes := hleaves.envelopes.trans h.envelopes
      calling := fun hcall => by
        rw [hleaves.event_rx, hleaves.envelope_tx]
        exact h.calling hcall
      ends := by rw [hleaves.event_rx, hleaves.envelope_tx, h.ends]
      unopened := fun hnot => by rw [hopened] at hnot; cases hnot
      dropping := h.dropping }

theorem kept_run {identity : Option Identity} {stream : List (Event UInt8 IoError)}
    {steps : List ControlStep} (hrun : run (step json) (new identity stream) steps = some s) :
    Kept s :=
  run_keeps (fun _ _ _ h hstep => h.step hstep) (kept_new identity stream) hrun

/-! ## Calls that can return -/

/-- The others can bring it about that the call returns. -/
def CanReturn (json : Json) (s : ControlSession) : Prop :=
  ∃ is t t', (∀ i ∈ is, i.of_others = true) ∧ run (step json) s is = some t ∧
    step json t .finish = some t'

/-- The session waits to put in an envelope and the bridge to put in an event. Both queues are
full. -/
structure Deadlocked (s : ControlSession) : Prop where
  session : ∃ envelope, s.call = some (.send envelope)
  bridge : ∃ event, s.bridge.phase = .sending event
  events : s.bridge.event_queue.length = QUEUE_CAPACITY
  envelopes : s.bridge.envelope_queue.length = QUEUE_CAPACITY

theorem CanReturn.after (h : CanReturn json s') (hi : i.of_others = true)
    (hstep : step json s i = some s') : CanReturn json s := by
  obtain ⟨is, t, t', his, hrun, hfinish⟩ := h
  exact ⟨i :: is, t, t', List.forall_mem_cons.mpr ⟨hi, his⟩,
    Option.bind_eq_some_iff.mpr ⟨s', hstep, hrun⟩, hfinish⟩

theorem canReturn_now (h : ∃ s', step json s .finish = some s') : CanReturn json s := by
  obtain ⟨s', hs'⟩ := h
  exact ⟨[], s, s', nofun, rfl, hs'⟩

theorem step_bridge {bridge : Bridge} {i : BridgeStep} (hopened : s.opened = true)
    (hown : i.of_bridge = true) (hstep : s.bridge.step json i = some bridge) :
    step json s (.bridge i) = some { s with bridge } := by
  rw [step, hopened, hown, hstep]
  rfl

theorem CanReturn.after_bridge {bridge : Bridge} {i : BridgeStep}
    (h : CanReturn json { s with bridge }) (hopened : s.opened = true)
    (hown : i.of_bridge = true) (hstep : s.bridge.step json i = some bridge) :
    CanReturn json s :=
  h.after rfl (step_bridge hopened hown hstep)

theorem finish_recv (json : Json) {event : InterfaceEvent} {rest : List InterfaceEvent}
    (hcall : s.call = some .recv) (hopen : s.bridge.event_rx_open = true)
    (hqueue : s.bridge.event_queue = event :: rest) : ∃ s', step json s .finish = some s' := by
  rw [step, hcall, Option.bind_some, finish, recv, hqueue]
  simp only [step_session_recv hopen hqueue, Option.map_some]
  exact ⟨_, rfl⟩

theorem finish_returned (json : Json) (hcall : s.call ≠ none)
    (hopen : s.bridge.event_rx_open = true) (hphase : s.bridge.phase = .returned) :
    ∃ s', step json s .finish = some s' := by
  obtain ⟨call, hcall⟩ := Option.ne_none_iff_exists'.mp hcall
  cases call with
  | recv =>
    cases hqueue : s.bridge.event_queue with
    | cons event rest => exact finish_recv json hcall hopen hqueue
    | nil =>
      rw [step, hcall, Option.bind_some, finish, recv, hqueue]
      simp only [hphase, BridgePhase.is_returned, Bool.true_or, if_true, Option.map_some]
      exact ⟨_, rfl⟩
  | send envelope =>
    rw [step, hcall, Option.bind_some, finish, send, step_session_send_returned envelope hphase]
    exact ⟨_, rfl⟩

theorem finish_send (json : Json) {envelope : EventEnvelope}
    (hcall : s.call = some (.send envelope)) (hopen : s.bridge.envelope_tx_open = true)
    (hroom : s.bridge.envelope_queue.length < QUEUE_CAPACITY) :
    ∃ s', step json s .finish = some s' := by
  rw [step, hcall, Option.bind_some, finish, send]
  by_cases hphase : s.bridge.phase = .returned
  · rw [step_session_send_returned envelope hphase]
    exact ⟨_, rfl⟩
  · rw [step_session_send envelope hphase, hopen, decide_eq_true hroom]
    exact ⟨_, rfl⟩

theorem poll_frame_frame (json : Json) (bridge : Bridge) (budget : Nat) :
    (bridge.poll_frame json budget).event_queue = bridge.event_queue ∧
      (bridge.poll_frame json budget).event_rx_open = bridge.event_rx_open := by
  unfold Bridge.poll_frame
  split <;> exact ⟨rfl, rfl⟩

theorem poll_frame_completes (json : Json) (bridge : Bridge) :
    (∃ event, (bridge.poll_frame json (bridge.reader.stream.length + 1)).phase = .sending event) ∨
      (bridge.poll_frame json (bridge.reader.stream.length + 1)).phase = .returned := by
  have hsome : (bridge.reader.read_frame json (bridge.reader.stream.length + 1)).1.isSome := by
    rw [framed_call, Reader.call, frame_result_isSome, read_completes (Nat.lt_succ_self _)]
    rfl
  unfold Bridge.poll_frame
  split
  · rename_i hread
    rw [hread] at hsome
    cases hsome
  · exact .inl ⟨_, rfl⟩
  · exact .inr rfl
  · exact .inr rfl

theorem canReturn_recv_sending {event : InterfaceEvent} (hcall : s.call = some .recv)
    (hopened : s.opened = true) (hopen : s.bridge.event_rx_open = true)
    (hphase : s.bridge.phase = .sending event) (hqueue : s.bridge.event_queue = []) :
    CanReturn json s := by
  have hroom : s.bridge.event_queue.length < QUEUE_CAPACITY := by rw [hqueue]; decide
  refine CanReturn.after_bridge ?_ hopened (i := .send_event) rfl
    ((step_send_event hphase hopen).trans (if_pos hroom))
  have hfirst : s.bridge.event_queue ++ [event] = event :: [] := by rw [hqueue, List.nil_append]
  exact canReturn_now (finish_recv json hcall hopen hfirst)

theorem canReturn_selecting (h : Kept s) (hcall : s.call ≠ none) (hopened : s.opened = true)
    (hphase : s.bridge.phase = .selecting) : CanReturn json s := by
  -- the bridge reads the next event, or takes an envelope out of the full queue
  obtain ⟨hrx, htx⟩ := h.calling hcall
  obtain ⟨call, hcalled⟩ := Option.ne_none_iff_exists'.mp hcall
  cases call with
  | recv =>
    cases hqueue : s.bridge.event_queue with
    | cons event rest =>
      exact canReturn_now (finish_recv json hcalled hrx hqueue)
    | nil =>
      obtain ⟨hsame, hopen⟩ :=
        poll_frame_frame json s.bridge (s.bridge.reader.stream.length + 1)
      refine CanReturn.after_bridge ?_ hopened
        (i := .poll_frame (s.bridge.reader.stream.length + 1)) rfl (step_poll_frame _ hphase)
      rcases poll_frame_completes json s.bridge with ⟨event, hsending⟩ | hreturned
      · exact canReturn_recv_sending hcalled hopened (hopen.trans hrx) hsending
          (hsame.trans hqueue)
      · exact canReturn_now (finish_returned json hcall (hopen.trans hrx) hreturned)
  | send envelope =>
    cases hqueue : s.bridge.envelope_queue with
    | nil =>
      exact canReturn_now (finish_send json hcalled htx (by rw [hqueue]; decide))
    | cons first rest =>
      have hroom : rest.length < QUEUE_CAPACITY := by
        have henvelopes := h.envelopes
        rwa [hqueue, List.length_cons] at henvelopes
      refine CanReturn.after_bridge ?_ hopened (i := .recv_envelope) rfl
        (step_recv_envelope hphase hqueue)
      exact canReturn_now (finish_send json hcalled htx hroom)

theorem canReturn_writing {rest : List UInt8} (h : Kept s) (hcall : s.call ≠ none)
    (hopened : s.opened = true) (hphase : s.bridge.phase = .writing rest) : CanReturn json s := by
  refine CanReturn.after_bridge ?_ hopened (i := .write rest.length) rfl (step_write_all hphase)
  refine CanReturn.after_bridge ?_ hopened (i := .flush) rfl rfl
  exact canReturn_selecting { h with unopened := fun _ => .inl rfl } hcall hopened rfl

theorem canReturn_sending {event : InterfaceEvent} (h : Kept s) (hcall : s.call ≠ none)
    (hopened : s.opened = true) (hphase : s.bridge.phase = .sending event)
    (hnot : ¬ Deadlocked s) : CanReturn json s := by
  obtain ⟨hrx, htx⟩ := h.calling hcall
  by_cases hroom : s.bridge.event_queue.length < QUEUE_CAPACITY
  · refine CanReturn.after_bridge ?_ hopened (i := .send_event) rfl
      ((step_send_event hphase hrx).trans (if_pos hroom))
    refine canReturn_selecting { h with events := ?_, unopened := fun _ => .inl rfl } hcall
      hopened rfl
    rw [List.length_append]
    exact hroom
  have hevents : s.bridge.event_queue.length = QUEUE_CAPACITY :=
    Nat.le_antisymm h.events (Nat.le_of_not_lt hroom)
  obtain ⟨call, hcalled⟩ := Option.ne_none_iff_exists'.mp hcall
  cases call with
  | recv =>
    cases hqueue : s.bridge.event_queue with
    | nil =>
      rw [hqueue] at hevents
      cases hevents
    | cons first rest =>
      exact canReturn_now (finish_recv json hcalled hrx hqueue)
  | send envelope =>
    by_cases hspace : s.bridge.envelope_queue.length < QUEUE_CAPACITY
    · exact canReturn_now (finish_send json hcalled htx hspace)
    · exact absurd ⟨⟨envelope, hcalled⟩, ⟨event, hphase⟩, hevents,
        Nat.le_antisymm h.envelopes (Nat.le_of_not_lt hspace)⟩ hnot

theorem canReturn_of_not_deadlocked (h : Kept s) (hcall : s.call ≠ none)
    (hnot : ¬ Deadlocked s) : CanReturn json s := by
  by_cases hreturned : s.bridge.phase = .returned
  · exact canReturn_now (finish_returned json hcall (h.calling hcall).1 hreturned)
  by_cases hopened : s.opened = true
  · cases hphase : s.bridge.phase with
    | selecting => exact canReturn_selecting h hcall hopened hphase
    | sending event => exact canReturn_sending h hcall hopened hphase hnot
    | writing rest => exact canReturn_writing h hcall hopened hphase
    | returned => exact absurd hphase hreturned
  · have hclosed : s.opened = false := Bool.eq_false_iff.mpr hopened
    cases htx : s.event_tx_open with
    | true =>
      -- the peer has yet to open the channel
      have hselecting := (h.unopened hclosed).resolve_right fun hgone => hreturned hgone.1
      have hopens : step json s .channel_open = some { s with opened := true } := by
        rw [step, hclosed, htx]
        rfl
      have hkept : Kept { s with opened := true } := h.step hopens
      exact (canReturn_selecting hkept hcall rfl hselecting).after rfl hopens
    | false =>
      -- the drop of the handler goes on
      have hdrops : step json s .drop_envelope_rx =
          some { s with bridge := { s.bridge with phase := .returned } } := by
        rw [step, htx, Bool.eq_false_iff.mpr (mt BridgePhase.is_returned_iff.mp hreturned)]
        rfl
      refine (canReturn_now (finish_returned json ?_ ?_ rfl)).after rfl hdrops
      · exact hcall
      · exact (h.calling hcall).1

/-! ## Deadlocks -/

theorem deadlocked_step (h : Kept s) (hdead : Deadlocked s) (hstep : step json s i = some s') :
    i = .give_up := by
  obtain ⟨⟨envelope, hcall⟩, ⟨event, hphase⟩, hevents, henvelopes⟩ := hdead
  have hcalling : s.call ≠ none := by rw [hcall]; nofun
  cases step_does hstep with
  | give_up => rfl
  | call _ hidle | drop hidle => exact absurd hidle hcalling
  | received hrecv _ | ended hrecv _ _ =>
    rw [hcall] at hrecv
    cases hrecv
  | queued _ _ _ hroom => omega
  | refused _ hreturned =>
    rw [hphase] at hreturned
    cases hreturned
  | channel_open hopened | drop_event_tx hopened =>
    rcases h.unopened hopened with hother | ⟨hother, -⟩ <;> rw [hphase] at hother <;> cases hother
  | drop_envelope_rx htx =>
    rcases h.unopened (h.dropping htx) with hother | ⟨hother, -⟩ <;> rw [hphase] at hother <;>
      cases hother
  | @bridge step _ hopened hown hmoved =>
    have hfull : ¬ s.bridge.event_queue.length < QUEUE_CAPACITY := by omega
    unfold Bridge.step at hmoved
    rw [hphase] at hmoved
    cases step with
    | send_event => simp [(h.calling hcalling).1, hfull] at hmoved
    | session_recv | session_send _ | close_event_rx | close_envelope_tx => cases hown
    | _ => cases hmoved

theorem canReturn_iff (h : Kept s) (hcall : s.call ≠ none) :
    CanReturn json s ↔ ¬ Deadlocked s := by
  refine ⟨?_, canReturn_of_not_deadlocked h hcall⟩
  rintro ⟨is, t, t', his, hrun, hfinish⟩ hdead
  cases is with
  | nil =>
    cases hrun
    cases deadlocked_step h hdead hfinish
  | cons i is =>
    obtain ⟨u, hu, -⟩ := Option.bind_eq_some_iff.mp hrun
    obtain rfl := deadlocked_step h hdead hu
    cases his _ List.mem_cons_self

/-! ## How a deadlock comes about -/

theorem bridge_keeps {P : Bridge → Prop}
    (hP : ∀ bridge bridge', P bridge → bridge.Moves json bridge' → P bridge')
    (h : P s.bridge) (hstep : step json s i = some s') : P s'.bridge := by
  cases step_does hstep with
  | call | ended | refused | give_up | channel_open | drop_event_tx => exact h
  | received _ hqueue => exact hP _ _ h (.received hqueue)
  | queued => exact hP _ _ h (.queued _)
  | drop => exact hP _ _ (hP _ _ h .close_event_rx) .close_envelope_tx
  | drop_envelope_rx => exact hP _ _ h .leave
  | bridge _ _ hmoved => exact hP _ _ h (step_moves hmoved)

theorem events_run {identity : Option Identity} {stream : List (Event UInt8 IoError)}
    {steps : List ControlStep} (hrun : run (step json) (new identity stream) steps = some s) :
    EventsInv json (stream.flatMap Event.bytes) identity s.bridge := by
  have hnew : EventsInv json (stream.flatMap Event.bytes) identity (new identity stream).bridge :=
    ⟨rfl, [], rfl, rfl⟩
  exact run_keeps (fun _ _ _ => bridge_keeps fun _ _ => moves_events) hnew hrun

theorem Deadlocked.frames {bytes residue : List UInt8} {bodies : List (List UInt8)}
    {identity : Option Identity} (hdead : Deadlocked s) (hf : Framed bytes bodies residue)
    (h : EventsInv json bytes identity s.bridge) :
    ∃ envelopes : List EventEnvelope, envelopes.length = QUEUE_CAPACITY + 1 ∧
      envelopes.map .ok <+: bodies.map json.from_slice := by
  obtain ⟨envelopes, hsent, htaken⟩ := h.taken
  obtain ⟨event, hphase⟩ := hdead.bridge
  rw [hphase] at htaken
  obtain ⟨envelope, -, hitems⟩ := htaken
  have hlength : QUEUE_CAPACITY + 1 ≤ (envelopes ++ [envelope]).length := by
    have hsum := congrArg List.length hsent
    rw [Bridge.sent, List.length_append, List.length_map, hdead.events] at hsum
    rw [List.length_append, List.length_singleton]
    omega
  refine ⟨(envelopes ++ [envelope]).take (QUEUE_CAPACITY + 1), ?_, ?_⟩
  · rw [List.length_take]
    omega
  · rw [List.map_take]
    refine List.IsPrefix.trans ?_ (framed_items hf hitems).1
    exact List.take_prefix _ _

theorem poll_next {bridge : Bridge} {envelope : EventEnvelope} {rest : List UInt8}
    (hfaultless : Faultless bridge.reader)
    (hnext : FrameFramedReader.next_frame json bridge.reader.pending = some (.ok envelope, rest)) :
    ∃ budget reader, bridge.poll_frame json budget =
        { bridge with reader, phase := .sending ⟨envelope, bridge.identity⟩ } ∧
      reader.pending = rest ∧ Faultless reader := by
  obtain ⟨reader, hread, hpending, hf⟩ :=
    read_item (framed_stable json) hfaultless (Nat.lt_succ_self _) hnext
  refine ⟨bridge.reader.stream.length + 1, reader, ?_, hpending, hf⟩
  rw [Bridge.poll_frame, framed_call, Reader.call, hread]
  rfl

/-- An open session without a call, with so many events and envelopes in its queues. -/
structure Filled (s : ControlSession) (events envelopes : Nat) (pending : List UInt8) : Prop where
  opened : s.opened = true
  idle : s.call = none
  phase : s.bridge.phase = .selecting
  event_rx : s.bridge.event_rx_open = true
  envelope_tx : s.bridge.envelope_tx_open = true
  faultless : Faultless s.bridge.reader
  pending : s.bridge.reader.pending = pending
  events : s.bridge.event_queue.length = events
  envelopes : s.bridge.envelope_queue.length = envelopes

variable {events envelopes : Nat} {pending rest : List UInt8}

theorem Filled.poll {envelope : EventEnvelope} (h : Filled s events envelopes pending)
    (hnext : FrameFramedReader.next_frame json pending = some (.ok envelope, rest)) :
    ∃ reader, Reaches (step json) s { s with bridge := { s.bridge with
        reader, phase := .sending ⟨envelope, s.bridge.identity⟩ } } ∧
      reader.pending = rest ∧ Faultless reader := by
  rw [← h.pending] at hnext
  obtain ⟨budget, reader, hpoll, hrest, hf⟩ := poll_next h.faultless hnext
  have hstep := (step_poll_frame budget h.phase).trans (congrArg some hpoll)
  exact ⟨reader, Reaches.single (step_bridge h.opened rfl hstep), hrest, hf⟩

theorem Filled.read {envelope : EventEnvelope} (h : Filled s events envelopes pending)
    (hroom : events < QUEUE_CAPACITY)
    (hnext : FrameFramedReader.next_frame json pending = some (.ok envelope, rest)) :
    ∃ s', Reaches (step json) s s' ∧ Filled s' (events + 1) envelopes rest := by
  obtain ⟨reader, hreaches, hrest, hf⟩ := h.poll hnext
  refine ⟨{ s with bridge := { s.bridge with
    reader
    event_queue := s.bridge.event_queue ++ [⟨envelope, s.bridge.identity⟩]
    phase := .selecting } }, hreaches.trans (Reaches.single (step_bridge h.opened
      (i := .send_event) rfl (Eq.trans (step_send_event ?_ ?_) (if_pos ?_)))), ?_⟩
  · rfl
  · exact h.event_rx
  · exact h.events.symm ▸ hroom
  · exact { h with
      phase := rfl
      faultless := hf
      pending := hrest
      events := by rw [List.length_append, h.events]; rfl }

theorem Filled.send (json : Json) (envelope : EventEnvelope) (h : Filled s events envelopes pending)
    (hroom : envelopes < QUEUE_CAPACITY) :
    ∃ s', Reaches (step json) s s' ∧ Filled s' events (envelopes + 1) pending := by
  have hphase : s.bridge.phase ≠ .returned := by rw [h.phase]; nofun
  have hspace : (s.bridge.envelope_tx_open &&
      decide (s.bridge.envelope_queue.length < QUEUE_CAPACITY)) = true := by
    rw [h.envelope_tx, Bool.true_and, h.envelopes]
    exact decide_eq_true hroom
  have hcall : step json s (.call (.send envelope)) =
      some { s with call := some (.send envelope) } := by
    rw [step, h.idle, h.event_rx]
    rfl
  refine ⟨{ s with
    bridge := { s.bridge with
      envelope_queue := s.bridge.envelope_queue ++ [envelope]
      queued := s.bridge.queued ++ [envelope] }
    call := none, results := s.results ++ [.sent envelope true] },
    (Reaches.single hcall).trans (Reaches.single (i := .finish) ?_), ?_⟩
  · rw [step, Option.bind_some, finish, ControlSession.send, step_session_send envelope hphase,
      if_pos hspace, Bool.eq_false_iff.mpr (mt BridgePhase.is_returned_iff.mp hphase)]
    rfl
  · exact { h with idle := rfl, envelopes := by rw [List.length_append, h.envelopes]; rfl }

theorem Filled.reads {read : List EventEnvelope} (h : Filled s events envelopes pending)
    (hroom : events + read.length ≤ QUEUE_CAPACITY)
    (hitems : Items (FrameFramedReader.next_frame json) (read.map .ok) pending rest) :
    ∃ s', Reaches (step json) s s' ∧ Filled s' (events + read.length) envelopes rest := by
  induction read generalizing s events pending with
  | nil =>
    obtain rfl : pending = rest := hitems
    exact ⟨s, ⟨[], rfl⟩, h⟩
  | cons envelope read ih =>
    obtain ⟨mid, hnext, hitems⟩ := hitems
    rw [List.length_cons, Nat.add_comm read.length, ← Nat.add_assoc] at hroom ⊢
    obtain ⟨t, hfirst, ht⟩ := h.read (by omega) hnext
    obtain ⟨s', hothers, hs'⟩ := ih ht hroom hitems
    exact ⟨s', hfirst.trans hothers, hs'⟩

theorem Filled.sends (json : Json) (envelope : EventEnvelope) {n : Nat}
    (h : Filled s events envelopes pending) (hroom : envelopes + n ≤ QUEUE_CAPACITY) :
    ∃ s', Reaches (step json) s s' ∧ Filled s' events (envelopes + n) pending := by
  induction n generalizing s envelopes with
  | zero => exact ⟨s, ⟨[], rfl⟩, h⟩
  | succ n ih =>
    rw [Nat.add_comm n, ← Nat.add_assoc] at hroom ⊢
    obtain ⟨t, hfirst, ht⟩ := h.send json envelope (by omega)
    obtain ⟨s', hothers, hs'⟩ := ih ht hroom
    exact ⟨s', hfirst.trans hothers, hs'⟩

theorem Filled.deadlock {envelope : EventEnvelope}
    (h : Filled s QUEUE_CAPACITY QUEUE_CAPACITY pending)
    (hnext : FrameFramedReader.next_frame json pending = some (.ok envelope, rest)) :
    ∃ s', Reaches (step json) s s' ∧ Deadlocked s' := by
  -- with both queues full, the bridge takes one more event and the owner sends once more
  obtain ⟨reader, hreaches, -, -⟩ := h.poll hnext
  refine ⟨{ s with
    bridge := { s.bridge with reader, phase := .sending ⟨envelope, s.bridge.identity⟩ }
    call := some (.send envelope) },
    hreaches.trans (Reaches.single (i := .call (.send envelope)) ?_),
    ⟨envelope, rfl⟩, ⟨_, rfl⟩, h.events, h.envelopes⟩
  rw [step, h.idle, h.event_rx]
  rfl

theorem items_of_framed {rs : List (Except String EventEnvelope)} {bytes residue : List UInt8}
    {bodies : List (List UInt8)} (hf : Framed bytes bodies residue)
    (h : rs <+: bodies.map json.from_slice) :
    ∃ rest, Items (FrameFramedReader.next_frame json) rs bytes rest := by
  induction rs generalizing bytes bodies with
  | nil => exact ⟨bytes, rfl⟩
  | cons r rs ih =>
    cases bodies with
    | nil => simp at h
    | cons body bodies =>
      rw [List.map_cons, List.cons_prefix_cons] at h
      obtain ⟨rfl, h⟩ := h
      obtain ⟨mid, hsplit, hf'⟩ := framed_cons hf
      obtain ⟨rest, hitems⟩ := ih hf' h
      refine ⟨rest, mid, ?_, hitems⟩
      rw [framed_next_frame, hsplit]
      rfl

theorem exists_deadlocked {residue : List UInt8} {bodies : List (List UInt8)}
    {stream : List (Event UInt8 IoError)} (identity : Option Identity)
    (hf : Framed (stream.flatMap Event.bytes) bodies residue)
    (hstream : ∀ e, .fault e ∉ stream) {read : List EventEnvelope}
    (hlength : read.length = QUEUE_CAPACITY + 1)
    (hfirst : read.map .ok <+: bodies.map json.from_slice) :
    ∃ s, Reaches (step json) (new identity stream) s ∧ Deadlocked s := by
  obtain ⟨rest, hitems⟩ := items_of_framed hf hfirst
  obtain ⟨front, last, rfl⟩ : ∃ front last, read = front ++ [last] :=
    ⟨_, _, (List.dropLast_append_getLast (List.ne_nil_of_length_eq_add_one hlength)).symm⟩
  rw [List.length_append, List.length_singleton, Nat.add_right_cancel_iff] at hlength
  rw [List.map_append, items_append] at hitems
  obtain ⟨mid, hfront, after, hlast, -⟩ := hitems
  have hopens : Reaches (step json) (new identity stream)
      { new identity stream with opened := true } := Reaches.single (i := .channel_open) rfl
  have hopened : Filled { new identity stream with opened := true } 0 0
      (stream.flatMap Event.bytes) := ⟨rfl, rfl, rfl, rfl, rfl, hstream, rfl, rfl, rfl⟩
  obtain ⟨t, hreads, ht⟩ := hopened.reads (by omega) hfront
  obtain ⟨u, hsends, hu⟩ := ht.sends json last (n := QUEUE_CAPACITY) (Nat.le_of_eq (Nat.zero_add _))
  rw [hlength, Nat.zero_add] at hu
  obtain ⟨s, hs, hdead⟩ := hu.deadlock hlast
  exact ⟨s, hopens.trans (hreads.trans (hsends.trans hs)), hdead⟩

/-- **Deadlocks of a session.** A peer can bring one about if and only if it sends more events than
a queue holds. -/
theorem session_deadlock_iff (json : Json) (identity : Option Identity)
    (chunks : List { chunk : List UInt8 // chunk ≠ [] }) (bodies : List (List UInt8))
    (residue : List UInt8) (hf : Framed (chunks.flatMap Subtype.val) bodies residue) :
    (∀ steps s, run (step json) (new identity (ofChunks chunks).stream) steps = some s →
      (s.call ≠ none → (CanReturn json s ↔ ¬ Deadlocked s)) ∧
      (Deadlocked s → ∀ i s', step json s i = some s' → i = .give_up)) ∧
    ((∃ s, Reaches (step json) (new identity (ofChunks chunks).stream) s ∧ Deadlocked s) ↔
      ∃ envelopes : List EventEnvelope, envelopes.length = QUEUE_CAPACITY + 1 ∧
        envelopes.map .ok <+: bodies.map json.from_slice) := by
  have hbytes : (ofChunks chunks).stream.flatMap Event.bytes = chunks.flatMap Subtype.val :=
    ofChunks_pending chunks
  rw [← hbytes] at hf
  refine ⟨fun steps s hrun => ⟨canReturn_iff (kept_run hrun), fun hdead i s' hstep =>
    deadlocked_step (kept_run hrun) hdead hstep⟩, ?_, ?_⟩
  · rintro ⟨s, ⟨steps, hrun⟩, hdead⟩
    exact hdead.frames hf (events_run hrun)
  · rintro ⟨envelopes, hlength, hfirst⟩
    exact exists_deadlocked identity hf (ofChunks_faultless chunks) hlength hfirst

/-- A peer that sends one event more than the queue holds. -/
def sampleFlood : List { chunk : List UInt8 // chunk ≠ [] } :=
  List.replicate (QUEUE_CAPACITY + 1) ⟨frame sampleBody, by decide⟩

theorem session_deadlock_flood :
    ∃ s, Reaches (step sampleJson) (new none (ofChunks sampleFlood).stream) s ∧ Deadlocked s := by
  refine ((session_deadlock_iff sampleJson none sampleFlood
    (List.replicate (QUEUE_CAPACITY + 1) sampleBody) [] ⟨?_, ?_, rfl⟩).2).mpr
    ⟨List.replicate (QUEUE_CAPACITY + 1) sampleEnvelope, List.length_replicate, ?_⟩
  · intro body hbody
    rw [List.eq_of_mem_replicate hbody]
    decide +kernel
  · rw [sampleFlood, List.append_nil, List.flatMap_replicate, List.flatMap_replicate]
  · have hparses : sampleJson.from_slice sampleBody = .ok sampleEnvelope := by simp [sampleJson]
    rw [List.map_replicate, List.map_replicate, hparses]

/-! ## What the calls return -/

/-- What came through the queues is what the calls returned, and a failure is for good. -/
structure Recorded (s : ControlSession) : Prop where
  received : s.results.filterMap OwnerResult.event = s.bridge.received
  queued : s.results.filterMap OwnerResult.accepted = s.bridge.queued
  refused : ∀ r ∈ s.results, r.is_refused = true → s.bridge.phase = .returned
  ended : ∀ r ∈ s.results, r.is_ended = true →
    (s.bridge.phase = .returned ∨ s.event_tx_open = false) ∧ s.bridge.event_queue = []
  dropping : s.event_tx_open = false → s.opened = false

theorem recorded_new (identity : Option Identity) (stream : List (Event UInt8 IoError)) :
    Recorded (new identity stream) :=
  ⟨rfl, rfl, nofun, nofun, nofun⟩

theorem Recorded.snoc (h : Recorded s) {bridge : Bridge} {r : OwnerResult}
    (hreceived : bridge.received = s.bridge.received ++ r.event.toList)
    (hqueued : bridge.queued = s.bridge.queued ++ r.accepted.toList)
    (hphase : bridge.phase = s.bridge.phase)
    (hqueue : s.bridge.event_queue = [] → bridge.event_queue = [])
    (hrefused : r.is_refused = true → bridge.phase = .returned)
    (hended : r.is_ended = true →
      (bridge.phase = .returned ∨ s.event_tx_open = false) ∧ bridge.event_queue = []) :
    Recorded { s with bridge, call := none, results := s.results ++ [r] } := by
  refine ⟨?_, ?_, fun r' hr' hfailed => ?_, fun r' hr' hfailed => ?_, h.dropping⟩
  · rw [List.filterMap_append, h.received, hreceived]
    cases hr : r.event <;> simp [hr]
  · rw [List.filterMap_append, h.queued, hqueued]
    cases hr : r.accepted <;> simp [hr]
  · rcases List.mem_append.mp hr' with hold | hnew
    · exact hphase.trans (h.refused r' hold hfailed)
    · exact hrefused (List.mem_singleton.mp hnew ▸ hfailed)
  · rcases List.mem_append.mp hr' with hold | hnew
    · obtain ⟨hgone, hempty⟩ := h.ended r' hold hfailed
      exact ⟨hgone.imp_left hphase.trans, hqueue hempty⟩
    · exact hended (List.mem_singleton.mp hnew ▸ hfailed)

theorem Recorded.step (h : Recorded s) (hstep : step json s i = some s') : Recorded s' := by
  cases step_does hstep with
  | call | give_up | drop => exact { h with }
  | received hcall hqueue =>
    refine h.snoc rfl (List.append_nil _).symm rfl (fun hempty => ?_) nofun nofun
    rw [hqueue] at hempty
    cases hempty
  | ended hcall hqueue hgone =>
    exact h.snoc (List.append_nil _).symm (List.append_nil _).symm rfl id nofun
      fun _ => ⟨hgone, hqueue⟩
  | queued => exact h.snoc (List.append_nil _).symm rfl rfl id nofun nofun
  | refused hcall hphase =>
    exact h.snoc (List.append_nil _).symm (List.append_nil _).symm rfl id (fun _ => hphase) nofun
  | channel_open hopened htx =>
    exact { h with dropping := fun hgone => by rw [htx] at hgone; cases hgone }
  | drop_event_tx hopened htx =>
    exact { h with
      ended := fun r hr hended => ⟨.inr rfl, (h.ended r hr hended).2⟩
      dropping := fun _ => hopened }
  | drop_envelope_rx =>
    exact { h with
      refused := fun _ _ _ => rfl
      ended := fun r hr hended => ⟨.inl rfl, (h.ended r hr hended).2⟩ }
  | bridge hopened hown hmoved =>
    -- a bridge that goes on has both ends of its queues, so no call has failed
    have hleaves := of_bridge_leavesQueues hown hmoved
    have hrunning := of_bridge_running hown hmoved
    have hsending : s.event_tx_open ≠ false := fun htx => by
      rw [h.dropping htx] at hopened
      cases hopened
    exact {
      received := h.received.trans hleaves.received.symm
      queued := h.queued.trans hleaves.queued.symm
      refused := fun r hr hfailed => absurd (h.refused r hr hfailed) hrunning
      ended := fun r hr hfailed => ((h.ended r hr hfailed).1.elim hrunning hsending).elim
      dropping := h.dropping }

theorem recorded_run {identity : Option Identity} {stream : List (Event UInt8 IoError)}
    {steps : List ControlStep} (hrun : run (step json) (new identity stream) steps = some s) :
    Recorded s :=
  run_keeps (fun _ _ _ h hstep => h.step hstep) (recorded_new identity stream) hrun

/-- What may still be returned once a call has failed. -/
structure Fails (opened : Bool) (before : List OwnerResult) (r : OwnerResult) : Prop where
  refused : (∃ r' ∈ before, r'.is_refused = true) → r.accepted = none
  ended : (∃ r' ∈ before, r'.is_ended = true) → r.event = none
  ended_open : opened = true → (∃ r' ∈ before, r'.is_ended = true) → r.accepted = none

theorem Recorded.fails (h : Recorded s) (hstep : ControlSession.step json s i = some s') :
    s'.results = s.results ∨
      ∃ r, s'.results = s.results ++ [r] ∧ Fails s.opened s.results r := by
  cases step_does hstep with
  | call | give_up | channel_open | drop | drop_event_tx | drop_envelope_rx | bridge =>
    exact .inl rfl
  | ended | refused => exact .inr ⟨_, rfl, fun _ => rfl, fun _ => rfl, fun _ _ => rfl⟩
  | received hcall hqueue =>
    refine .inr ⟨_, rfl, fun _ => rfl, ?_, fun _ _ => rfl⟩
    rintro ⟨r', hr', hended⟩
    rw [(h.ended r' hr' hended).2] at hqueue
    cases hqueue
  | queued hcall hphase =>
    refine .inr ⟨_, rfl, ?_, fun _ => rfl, ?_⟩
    · rintro ⟨r', hr', hrefused⟩
      exact absurd (h.refused r' hr' hrefused) hphase
    · rintro hopened ⟨r', hr', hended⟩
      rcases (h.ended r' hr' hended).1 with hreturned | htx
      · exact absurd hreturned hphase
      · rw [h.dropping htx] at hopened
        cases hopened

theorem Fails.mono {opened opened' : Bool} {before before' : List OwnerResult} {r : OwnerResult}
    (h : Fails opened' before' r) (hopened : opened = true → opened' = true)
    (hsub : ∀ r' ∈ before, r' ∈ before') : Fails opened before r where
  refused := fun ⟨r', hr', hfailed⟩ => h.refused ⟨r', hsub r' hr', hfailed⟩
  ended := fun ⟨r', hr', hended⟩ => h.ended ⟨r', hsub r' hr', hended⟩
  ended_open := fun hopen ⟨r', hr', hended⟩ =>
    h.ended_open (hopened hopen) ⟨r', hsub r' hr', hended⟩

theorem opened_step (hstep : step json s i = some s') (h : s.opened = true) : s'.opened = true := by
  cases step_does hstep with
  | channel_open => rfl
  | _ => exact h

theorem fails_run (h : Recorded s) {later : List ControlStep} {t : ControlSession}
    (hrun : run (step json) s later = some t) :
    ∃ more, t.results = s.results ++ more ∧ ∀ r ∈ more, Fails s.opened s.results r := by
  have hone : ∀ u i u', (Recorded u ∧ (s.opened = true → u.opened = true) ∧
      ∃ more, u.results = s.results ++ more ∧ ∀ r ∈ more, Fails s.opened s.results r) →
      step json u i = some u' → Recorded u' ∧ (s.opened = true → u'.opened = true) ∧
        ∃ more, u'.results = s.results ++ more ∧ ∀ r ∈ more, Fails s.opened s.results r := by
    rintro u i u' ⟨hrecorded, hopened, more, hmore, hfails⟩ hstep
    refine ⟨hrecorded.step hstep, fun h => opened_step hstep (hopened h), ?_⟩
    rcases hrecorded.fails hstep with hsame | ⟨r, hr, hfail⟩
    · exact ⟨more, hsame.trans hmore, hfails⟩
    · rw [hmore] at hr hfail
      refine ⟨more ++ [r], hr.trans (List.append_assoc ..), fun r' hr' => ?_⟩
      rcases List.mem_append.mp hr' with hold | hnew
      · exact hfails r' hold
      · rw [List.mem_singleton.mp hnew]
        exact hfail.mono hopened fun r'' hr'' => List.mem_append_left _ hr''
  exact (run_keeps hone ⟨h, id, [], (List.append_nil _).symm, nofun⟩ hrun).2.2

theorem frames_run {identity : Option Identity} {stream : List (Event UInt8 IoError)}
    {steps : List ControlStep} (hrun : run (step json) (new identity stream) steps = some s) :
    FramesInv json s.bridge := by
  have hnew : FramesInv json (new identity stream).bridge := ⟨[], rfl, rfl⟩
  exact run_keeps (fun _ _ _ => bridge_keeps fun _ _ => moves_frames) hnew hrun

/-- **The calls of a session:** what `recv` gives, what reaches the peer, and what an error or a
`None` is followed by. -/
theorem session_results (json : Json) (identity : Option Identity)
    (stream : List (Event UInt8 IoError)) (bodies : List (List UInt8)) (residue : List UInt8)
    (hf : Framed (stream.flatMap Event.bytes) bodies residue) (steps : List ControlStep)
    (s : ControlSession) (hrun : run (step json) (new identity stream) steps = some s) :
    (∃ envelopes : List EventEnvelope,
      s.results.filterMap OwnerResult.event = envelopes.map (⟨·, identity⟩) ∧
      envelopes.map .ok <+: bodies.map json.from_slice) ∧
    s.bridge.written <+: (s.results.filterMap OwnerResult.accepted).flatMap (encode json) ∧
    ((∃ r ∈ s.results, r.is_ended = true) →
      s.results.filterMap OwnerResult.event = s.bridge.sent) ∧
    ∀ later t, run (step json) s later = some t →
      ∃ more, t.results = s.results ++ more ∧ ∀ r ∈ more, Fails s.opened s.results r := by
  have h := recorded_run hrun
  refine ⟨?_, ?_, ?_, fun later t hlater => fails_run h hlater⟩
  · obtain ⟨envelopes, hsent, htaken⟩ := (events_run hrun).taken
    obtain ⟨rest, hitems⟩ := htaken.returned
    refine ⟨envelopes.take s.bridge.received.length, ?_, ?_⟩
    · rw [h.received, List.map_take, ← hsent, Bridge.sent, List.take_left]
    · rw [List.map_take]
      refine List.IsPrefix.trans ?_ (framed_items hf hitems).1
      exact List.take_prefix _ _
  · rw [h.queued]
    exact (frames_run hrun).written_queued
  · rintro ⟨r, hr, hended⟩
    rw [h.received, Bridge.sent, (h.ended r hr hended).2, List.append_nil]

/-- An event, an envelope, and the end of the peer's stream. -/
def sampleCalls : List ControlStep :=
  [.call (.send sampleEnvelope), .finish, .channel_open, .bridge (.poll_frame 2),
    .bridge .send_event, .bridge (.poll_frame 2), .call .recv, .finish, .call .recv, .finish,
    .call (.send sampleEnvelope), .finish]

theorem session_results_ended :
    ∃ s, run (step sampleJson) (new none [.data (frame sampleBody) (by decide)]) sampleCalls =
        some s ∧
      s.results = [.sent sampleEnvelope true, .received (some ⟨sampleEnvelope, none⟩),
        .received none, .sent sampleEnvelope false] ∧
      s.results.filterMap OwnerResult.event = s.bridge.sent := by
  obtain ⟨s, hrun, hresults⟩ : ∃ s, run (step sampleJson)
      (new none [.data (frame sampleBody) (by decide)]) sampleCalls = some s ∧
      s.results = [.sent sampleEnvelope true, .received (some ⟨sampleEnvelope, none⟩),
        .received none, .sent sampleEnvelope false] := ⟨_, rfl, rfl⟩
  have hcalls := session_results sampleJson none [.data (frame sampleBody) (by decide)]
    [sampleBody] [] ⟨by decide, by decide, by decide⟩ sampleCalls s hrun
  refine ⟨s, hrun, hresults, hcalls.2.2.1 ⟨.received none, ?_, rfl⟩⟩
  rw [hresults]
  simp

-- between the drops of its two ends by the handler
example : (run (step sampleJson) (new none []) [.drop_event_tx, .call .recv, .finish,
      .call (.send sampleEnvelope), .finish]).map ControlSession.results =
    some [.received none, .sent sampleEnvelope true] := rfl

end ControlSession

end Alknet
