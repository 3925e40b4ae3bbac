import Alknet.Client.Forward
import Alknet.Code.Client.Connect

/-!
# What still runs when `ClientSession::run` has returned

The reconnect monitor and the signal listener are aborted. The SOCKS5 server is never aborted, and
the forwarders are aborted only by the forward task, which may be aborted itself before it comes to
that.
-/

open Alknet.Lib Alknet.Rust

namespace Alknet

/-! ## The forward task -/

namespace Forwarding

/-- Which tasks have ended, by how far `run_local_forwarders` has come. -/
def Aborts (s : Forwarding) : Prop :=
  match s.phase with
  | .spawning | .pushed | .waiting => ∀ task ∈ s.tasks, task.phase ≠ .aborted
  | .aborting index => ∀ j task, j < index → s.tasks[j]? = some task → task.phase.running = false
  | .joining _ | .returned => ∀ task ∈ s.tasks, task.phase.running = false

theorem task_step_not_aborted {cancel_tx : Bool} {task task' : ForwarderTask} {i : TaskStep}
    (h : task.step cancel_tx i = some task') : task'.phase ≠ .aborted := by
  unfold ForwarderTask.step at h
  grind

theorem abort_ended (task : ForwarderTask) : task.abort.phase.running = false := by
  cases hphase : task.phase <;> simp [ForwarderTask.abort, hphase, TaskPhase.running]

theorem aborts_task {s : Forwarding} {index : Nat} {i : TaskStep} {task task' : ForwarderTask}
    (h : s.Aborts) (htask : s.tasks[index]? = some task)
    (hstep : task.step (s.cancel_tx index) i = some task') :
    Aborts { s with tasks := s.tasks.set index task' } := by
  have hrunning := task_step_running hstep
  unfold Aborts at h ⊢
  cases hphase : s.phase with
  | spawning | pushed | waiting =>
    simp only [hphase] at h ⊢
    intro other hother
    rcases List.mem_or_eq_of_mem_set hother with hold | rfl
    · exact h other hold
    · exact task_step_not_aborted hstep
  | aborting next =>
    simp only [hphase] at h ⊢
    intro j other hj hother
    rw [List.getElem?_set] at hother
    split at hother
    · rename_i heq
      exact absurd hrunning (by simp [h index task (heq ▸ hj) htask])
    · exact h j other hj hother
  | joining next | returned =>
    simp only [hphase] at h
    exact absurd hrunning (by simp [h task (List.mem_of_getElem? htask)])

theorem aborts_step {s s' : Forwarding} {i : ForwardStep} (h : s.Aborts)
    (hstep : s.step i = some s') : s'.Aborts := by
  cases step_moves hstep with
  | spawn hphase hnext =>
    simp only [Aborts, hphase] at h ⊢
    intro task htask
    rcases List.mem_append.mp htask with hold | hnew
    · exact h task hold
    · rw [List.mem_singleton.mp hnew]
      exact TaskPhase.noConfusion
  | end_iteration hphase | spawned_all hphase => simpa only [Aborts, hphase] using h
  | changed hphase => exact fun j _ hj => absurd hj (Nat.not_lt_zero j)
  | @abort index task hphase htask =>
    simp only [Aborts, hphase] at h ⊢
    intro j other hj hother
    rw [List.getElem?_set] at hother
    split at hother
    · rename_i heq
      split at hother
      · exact Option.some.inj hother ▸ abort_ended task
      · cases hother
    · rename_i hne
      exact h j other (by omega) hother
  | aborted_all hphase hall =>
    simp only [Aborts, hphase] at h ⊢
    intro task htask
    obtain ⟨j, hj, rfl⟩ := List.getElem_of_mem htask
    exact h j _ (hj.trans_le (List.getElem?_eq_none_iff.mp hall)) (List.getElem?_eq_getElem hj)
  | join hphase | joined_all hphase => simpa only [Aborts, hphase] using h
  | task htask htaskstep => exact aborts_task h htask htaskstep
  | send | drop_senders => exact h

/-- The loop that aborts is behind it. -/
def AbortedAll (s : Forwarding) : Prop :=
  s.phase = .returned ∨ ∃ index, s.phase = .joining index

end Forwarding

/-! ## What a step of the run does -/

namespace ClientRun

/-- One constructor for each statement of `run`, and one for each thing a task does. -/
inductive Moves (s : ClientRun) : ClientStep → ClientRun → Prop where
  | spawn_socks5 (hphase : s.phase = .spawn_socks5) :
      Moves s .next { s with phase := .spawn_forward, socks5 := .running }
  | spawn_forward (hphase : s.phase = .spawn_forward) :
      Moves s .next { s with phase := .spawn_signal, forward_task := .running }
  | spawn_signal (hphase : s.phase = .spawn_signal) :
      Moves s .next { s with phase := .spawn_reconnect, signal := .running }
  | spawn_reconnect (hphase : s.phase = .spawn_reconnect) :
      Moves s .next { s with phase := .select, reconnect := .running }
  | select_shutdown (hphase : s.phase = .select) (hchanged : s.forward.shutdown.changed) :
      Moves s .select_shutdown { s with phase := .abort_reconnect }
  | select_socks5 (hphase : s.phase = .select) (hended : s.socks5 = .ended) :
      Moves s .select_socks5 { s with phase := .abort_reconnect }
  | abort_reconnect (hphase : s.phase = .abort_reconnect) :
      Moves s .next { s with phase := .abort_signal, reconnect := .ended }
  | abort_signal (hphase : s.phase = .abort_signal) :
      Moves s .next { s with phase := .send_shutdown, signal := .ended }
  | send_shutdown (hphase : s.phase = .send_shutdown) :
      Moves s .next { s.send true with phase := .disconnect }
  | disconnect (hphase : s.phase = .disconnect) : Moves s .next { s with phase := .drain }
  | drain (hphase : s.phase = .drain) : Moves s .next { s with phase := .abort_forward }
  | abort_forward (hphase : s.phase = .abort_forward) :
      Moves s .next { s with
        phase := .await_forward
        forward_task := if s.forward_task = .running then .aborted else s.forward_task }
  | await_forward (hphase : s.phase = .await_forward) (hended : s.forward_task = .ended) :
      Moves s .next { s with phase := .returned }
  | socks5_ends (hrunning : s.socks5 = .running) : Moves s .socks5_ends { s with socks5 := .ended }
  | signal_received (hrunning : s.signal = .running) :
      Moves s (.signal true) { s.send true with signal := .ended }
  | signal_panicked (hrunning : s.signal = .running) :
      Moves s (.signal false) { s with signal := .ended }
  | reconnect_ends (hrunning : s.reconnect = .running) (hvalue : s.forward.shutdown.value) :
      Moves s .reconnect_ends { s with reconnect := .ended }
  | send {value : Bool} : Moves s (.send value) (s.send value)
  | task {index : Nat} {i : TaskStep} {forward : Forwarding}
      (hstep : s.forward.step (.task index i) = some forward) :
      Moves s (.forward (.task index i)) { s with forward := forward }
  | forward {i : ForwardStep} {forward : Forwarding} (hcaller : i.of_caller)
      (halive : s.forward_task = .running ∨ s.forward_task = .aborted)
      (hstep : s.forward.step i = some forward) :
      Moves s (.forward i) { s with
        forward := forward
        forward_task := if forward.phase = .returned then .ended else s.forward_task }
  | forward_cancelled (haborted : s.forward_task = .aborted) (hawait : s.forward.at_await) :
      Moves s .forward_cancelled { s with forward_task := .ended }

theorem next_moves {s s' : ClientRun} (h : s.next = some s') : s.Moves .next s' := by
  unfold next at h
  cases hphase : s.phase with
  | spawn_socks5 => rw [hphase] at h; exact Option.some.inj h ▸ .spawn_socks5 hphase
  | spawn_forward => rw [hphase] at h; exact Option.some.inj h ▸ .spawn_forward hphase
  | spawn_signal => rw [hphase] at h; exact Option.some.inj h ▸ .spawn_signal hphase
  | spawn_reconnect => rw [hphase] at h; exact Option.some.inj h ▸ .spawn_reconnect hphase
  | select => rw [hphase] at h; cases h
  | abort_reconnect => rw [hphase] at h; exact Option.some.inj h ▸ .abort_reconnect hphase
  | abort_signal => rw [hphase] at h; exact Option.some.inj h ▸ .abort_signal hphase
  | send_shutdown => rw [hphase] at h; exact Option.some.inj h ▸ .send_shutdown hphase
  | disconnect => rw [hphase] at h; exact Option.some.inj h ▸ .disconnect hphase
  | drain => rw [hphase] at h; exact Option.some.inj h ▸ .drain hphase
  | abort_forward => rw [hphase] at h; exact Option.some.inj h ▸ .abort_forward hphase
  | await_forward =>
    obtain ⟨hended, rfl⟩ := by simpa [hphase] using h
    exact .await_forward hphase hended
  | returned => rw [hphase] at h; cases h

theorem forward_moves {s s' : ClientRun} {i : ForwardStep} (h : s.step (.forward i) = some s') :
    s.Moves (.forward i) s' := by
  by_cases htask : ∃ index i', i = .task index i'
  · obtain ⟨index, i', rfl⟩ := htask
    obtain ⟨forward, hstep, rfl⟩ := Option.map_eq_some_iff.mp h
    exact .task hstep
  · have hcaller : (if i.of_caller ∧ (s.forward_task = .running ∨ s.forward_task = .aborted) then
        (s.forward.step i).map fun forward =>
          { s with
            forward := forward
            forward_task := if forward.phase = .returned then .ended else s.forward_task }
        else none) = some s' := by
      cases i <;> first | exact h | exact absurd ⟨_, _, rfl⟩ htask
    split at hcaller
    · rename_i hguard
      obtain ⟨forward, hstep, rfl⟩ := Option.map_eq_some_iff.mp hcaller
      exact .forward hguard.1 hguard.2 hstep
    · cases hcaller

theorem step_moves {s s' : ClientRun} {i : ClientStep} (h : s.step i = some s') : s.Moves i s' := by
  cases i with
  | next => exact next_moves h
  | select_shutdown =>
    obtain ⟨⟨hphase, hchanged⟩, rfl⟩ := by simpa [step] using h
    exact .select_shutdown hphase hchanged
  | select_socks5 =>
    obtain ⟨⟨hphase, hended⟩, rfl⟩ := by simpa [step] using h
    exact .select_socks5 hphase hended
  | socks5_ends =>
    obtain ⟨hrunning, rfl⟩ := by simpa [step] using h
    exact .socks5_ends hrunning
  | signal received =>
    obtain ⟨hrunning, rfl⟩ := by simpa [step] using h
    cases received with
    | true => exact .signal_received hrunning
    | false => exact .signal_panicked hrunning
  | reconnect_ends =>
    obtain ⟨⟨hrunning, hvalue⟩, rfl⟩ := by simpa [step] using h
    exact .reconnect_ends hrunning hvalue
  | send value => exact Option.some.inj h ▸ .send
  | forward i => exact forward_moves h
  | forward_cancelled =>
    obtain ⟨⟨haborted, hawait⟩, rfl⟩ := by simpa [step] using h
    exact .forward_cancelled haborted hawait

/-! ## Invariants of the run -/

end ClientRun

/-- The reconnect monitor has been aborted. -/
@[simp] def RunPhase.reconnect_aborted : RunPhase → Bool
  | .abort_signal | .send_shutdown | .disconnect | .drain | .abort_forward | .await_forward
  | .returned => true
  | .spawn_socks5 | .spawn_forward | .spawn_signal | .spawn_reconnect | .select
  | .abort_reconnect => false

/-- The signal listener has been aborted. -/
@[simp] def RunPhase.signal_aborted : RunPhase → Bool
  | .send_shutdown | .disconnect | .drain | .abort_forward | .await_forward | .returned => true
  | .spawn_socks5 | .spawn_forward | .spawn_signal | .spawn_reconnect | .select
  | .abort_reconnect | .abort_signal => false

namespace ClientRun

/-- What `run` knows of the tasks that are no part of the forwarding. -/
structure Owns (s : ClientRun) : Prop where
  fresh : s.phase = .spawn_socks5 → s.socks5 = .unspawned
  socks5 : s.phase ≠ .spawn_socks5 → s.socks5 = .running ∨ s.socks5 = .ended
  reconnect : s.phase.reconnect_aborted → s.reconnect = .ended
  signal : s.phase.signal_aborted → s.signal = .ended

theorem owns_step {s s' : ClientRun} {i : ClientStep} (h : s.Owns) (hstep : s.step i = some s') :
    s'.Owns := by
  obtain ⟨hfresh, hsocks5, hreconnect, hsignal⟩ := h
  cases step_moves hstep with
  | spawn_socks5 => exact ⟨by simp, fun _ => .inl rfl, by simp, by simp⟩
  | spawn_forward hphase | spawn_signal hphase | spawn_reconnect hphase =>
    exact ⟨by simp, fun _ => hsocks5 (by simp [hphase]), by simp, by simp⟩
  | select_shutdown hphase | select_socks5 hphase =>
    exact ⟨by simp, fun _ => hsocks5 (by simp [hphase]), by simp, by simp⟩
  | abort_reconnect hphase =>
    exact ⟨by simp, fun _ => hsocks5 (by simp [hphase]), fun _ => rfl, by simp⟩
  | abort_signal hphase =>
    exact ⟨by simp, fun _ => hsocks5 (by simp [hphase]), fun _ => hreconnect (by simp [hphase]),
      fun _ => rfl⟩
  | send_shutdown hphase | disconnect hphase | drain hphase | abort_forward hphase
  | await_forward hphase =>
    exact ⟨by simp, fun _ => hsocks5 (by simp [hphase]), fun _ => hreconnect (by simp [hphase]),
      fun _ => hsignal (by simp [hphase])⟩
  | socks5_ends hrunning =>
    refine ⟨fun hphase => ?_, fun _ => .inr rfl, hreconnect, hsignal⟩
    simp [hfresh hphase] at hrunning
  | signal_received | signal_panicked => exact ⟨hfresh, hsocks5, hreconnect, fun _ => rfl⟩
  | reconnect_ends => exact ⟨hfresh, hsocks5, fun _ => rfl, hsignal⟩
  | send | task | forward | forward_cancelled => exact ⟨hfresh, hsocks5, hreconnect, hsignal⟩

theorem socks5_ended_step {s s' : ClientRun} {i : ClientStep} (h : s.Owns)
    (hstep : s.step i = some s') : s'.socks5 = .ended ↔ s.socks5 = .ended ∨ i = .socks5_ends := by
  cases step_moves hstep with
  | spawn_socks5 hphase => simp [h.fresh hphase]
  | socks5_ends => simp
  | _ => simp [send]

theorem socks5_ended_run {s s' : ClientRun} {steps : List ClientStep} (h : s.Owns)
    (hrun : run step s steps = some s') :
    s'.socks5 = .ended ↔ s.socks5 = .ended ∨ .socks5_ends ∈ steps := by
  induction steps generalizing s with
  | nil => simp [Option.some.inj hrun]
  | cons i steps ih =>
    obtain ⟨t, hstep, hrest⟩ := Option.bind_eq_some_iff.mp hrun
    rw [ih (owns_step h hstep) hrest, socks5_ended_step h hstep, List.mem_cons, or_assoc]
    simp only [eq_comm]

/-- The forward task ends at an await or at its end, and `run` returns after that. -/
structure Joins (s : ClientRun) : Prop where
  ended : s.forward_task = .ended → s.forward.at_await ∨ s.forward.phase = .returned
  joined : s.phase = .returned → s.forward_task = .ended
  aborts : s.forward.Aborts

theorem at_await_task {s s' : Forwarding} {index : Nat} {i : TaskStep}
    (hstep : s.step (.task index i) = some s') :
    s'.at_await = s.at_await ∧ s'.phase = s.phase := by
  cases Forwarding.step_moves hstep with
  | @task _ _ _ task' =>
    have hempty : (s.tasks.set index task').isEmpty = s.tasks.isEmpty := by
      cases s.tasks with
      | nil => rfl
      | cons => cases index <;> rfl
    simp only [Forwarding.at_await, hempty, and_self]

theorem joins_step {s s' : ClientRun} {i : ClientStep} (h : s.Joins) (hstep : s.step i = some s') :
    s'.Joins := by
  obtain ⟨hended, hjoined, haborts⟩ := h
  cases step_moves hstep with
  | spawn_forward => exact ⟨TaskStatus.noConfusion, RunPhase.noConfusion, haborts⟩
  | spawn_socks5 | spawn_signal | spawn_reconnect | select_shutdown | select_socks5
  | abort_reconnect | abort_signal | send_shutdown | disconnect | drain =>
    exact ⟨hended, RunPhase.noConfusion, haborts⟩
  | abort_forward =>
    refine ⟨fun hnew => hended ?_, RunPhase.noConfusion, haborts⟩
    split at hnew
    · cases hnew
    · exact hnew
  | await_forward hphase hnow => exact ⟨hended, fun _ => hnow, haborts⟩
  | socks5_ends | signal_received | signal_panicked | reconnect_ends | send =>
    exact ⟨hended, hjoined, haborts⟩
  | task hforward =>
    obtain ⟨hawait, hphase⟩ := at_await_task hforward
    refine ⟨fun hnow => ?_, hjoined, Forwarding.aborts_step haborts hforward⟩
    rw [hawait, hphase]
    exact hended hnow
  | forward hcaller halive hforward =>
    refine ⟨fun hnow => ?_, fun hreturned => ?_, Forwarding.aborts_step haborts hforward⟩
    · split at hnow
      · rename_i hphase
        exact .inr hphase
      · rcases halive with halive | halive <;> simp [halive] at hnow
    · have hnow := hjoined hreturned
      rcases halive with halive | halive <;> simp [halive] at hnow
  | forward_cancelled haborted hawait =>
    exact ⟨fun _ => .inl hawait, fun _ => rfl, haborts⟩

/-! ## What is left -/

/-- None of the long-lived tasks is running. -/
structure Quiet (s : ClientRun) : Prop where
  socks5 : s.socks5 ≠ .running
  forwarders : ∀ task ∈ s.forward.tasks, task.phase.running = false
  reconnect : s.reconnect ≠ .running
  signal : s.signal ≠ .running

end ClientRun

theorem aborted_or_alone {s : Forwarding} (h : s.Aborts)
    (hended : s.at_await ∨ s.phase = .returned) :
    (∀ task ∈ s.tasks, task.phase.running = false) ↔
      s.AbortedAll ∨ ∀ task ∈ s.tasks, task.phase = .returned ∨ task.phase = .stopped := by
  constructor
  · intro hquiet
    by_cases hall : s.AbortedAll
    · exact .inl hall
    -- the caller was dropped before it aborted anything
    · have hnone : ∀ task ∈ s.tasks, task.phase ≠ .aborted := by
        cases hphase : s.phase with
        | spawning | waiting | pushed => simpa only [Forwarding.Aborts, hphase] using h
        | aborting => simp [Forwarding.at_await, hphase] at hended
        | joining index => exact absurd (.inr ⟨index, hphase⟩) hall
        | returned => exact absurd (.inl hphase) hall
      refine .inr fun task htask => ?_
      have hphase := hquiet task htask
      have hne := hnone task htask
      cases htask : task.phase <;> simp_all [TaskPhase.running]
  · rintro (hall | halone)
    · rcases hall with hphase | ⟨index, hphase⟩ <;> simpa only [Forwarding.Aborts, hphase] using h
    · intro task htask
      rcases halone task htask with hphase | hphase <;> rw [hphase] <;> rfl

/-- **What is left of a client** when `run` has returned. -/
theorem client_quiet_iff (local_forwarders : List LocalForwarder) (shutdown : Watch)
    (steps : List ClientStep) (s : ClientRun)
    (hrun : run ClientRun.step (ClientSession.run local_forwarders shutdown) steps = some s)
    (hreturned : s.phase = .returned) :
    s.Quiet ↔ .socks5_ends ∈ steps ∧ (s.forward.AbortedAll ∨
      ∀ task ∈ s.forward.tasks, task.phase = .returned ∨ task.phase = .stopped) := by
  have hstart : (ClientSession.run local_forwarders shutdown).Owns :=
    ⟨fun _ => rfl, fun h => absurd rfl h, by simp [ClientSession.run], by simp [ClientSession.run]⟩
  have howns : s.Owns := run_keeps (fun _ _ _ => ClientRun.owns_step) hstart hrun
  have hjoins : s.Joins := by
    refine run_keeps (fun _ _ _ => ClientRun.joins_step) ?_ hrun
    refine ⟨TaskStatus.noConfusion, RunPhase.noConfusion, ?_⟩
    exact fun task htask => absurd htask List.not_mem_nil
  have hsocks5 := ClientRun.socks5_ended_run hstart hrun
  have hforward := aborted_or_alone hjoins.aborts (hjoins.ended (hjoins.joined hreturned))
  rw [← hforward]
  constructor
  · rintro ⟨hsocks, hforwarders, -, -⟩
    have hended := (howns.socks5 (by simp [hreturned])).resolve_left hsocks
    exact ⟨(hsocks5.mp hended).resolve_left TaskStatus.noConfusion, hforwarders⟩
  · rintro ⟨hends, hforwarders⟩
    refine ⟨?_, hforwarders, ?_, ?_⟩
    · simp [hsocks5.mpr (.inr hends)]
    · simp [howns.reconnect (by simp [hreturned])]
    · simp [howns.signal (by simp [hreturned])]

/-- A port that is taken: the SOCKS5 server ends at once. The forward task aborts a forwarder that
listens. -/
def socks5_fails : List ClientStep :=
  [.next, .next, .next, .next, .forward .spawn, .forward (.task 0 (.bind true)),
    .forward .end_iteration, .forward .spawned_all, .socks5_ends, .select_socks5, .next, .next,
    .next, .forward .changed, .forward .abort, .forward .abort, .forward .join, .forward .join,
    .next, .next, .next, .next]

theorem client_quiet_sample :
    ∃ s, run ClientRun.step
        (ClientSession.run [⟨⟨.Local, "127.0.0.1", 8080, "db", 5432⟩, none⟩] ⟨false, false, true⟩)
        socks5_fails = some s ∧
      s.phase = .returned ∧ s.forward.tasks.map ForwarderTask.listening = [true] ∧ s.Quiet := by
  obtain ⟨s, hrun, hshows⟩ := Option.map_eq_some_iff.mp (show
    (run ClientRun.step
        (ClientSession.run [⟨⟨.Local, "127.0.0.1", 8080, "db", 5432⟩, none⟩] ⟨false, false, true⟩)
        socks5_fails).map
        (fun s => (s.phase, s.forward.phase, s.forward.tasks.map ForwarderTask.listening)) =
      some (.returned, .returned, [true]) by decide +kernel)
  simp only [Prod.mk.injEq] at hshows
  obtain ⟨hphase, hforward, hlistening⟩ := hshows
  refine ⟨s, hrun, hphase, hlistening, ?_⟩
  refine (client_quiet_iff _ _ _ s hrun hphase).mpr ⟨?_, .inl (.inl hforward)⟩
  simp [socks5_fails]

/-- A shutdown that goes as it should. -/
theorem socks5_left_running :
    ∃ s, run ClientRun.step (ClientSession.run [] ⟨false, false, true⟩)
        [.next, .next, .next, .next, .send true, .select_shutdown, .next, .next, .next,
          .forward .spawned_all, .forward .changed, .forward .abort, .forward .join, .next, .next,
          .next, .next] = some s ∧
      s.phase = .returned ∧ ¬ s.Quiet :=
  ⟨_, rfl, rfl, fun hquiet => hquiet.socks5 rfl⟩

end Alknet
