import Alknet.Code.Client.ChannelManager
import Alknet.Lib.Run

/-!
# When the channel manager deadlocks

A call that changes the forwards takes the handle first and the forwards second. The monitor that
registers them again takes the forwards first and the handle second. The manager deadlocks exactly
when one of each kind waits for its second lock.
-/

open Alknet.Lib

namespace Alknet.Manager

@[simp] theorem enqueue_calls (s : Manager) (task : ManagerTask) (lock : ManagerLock) :
    (s.enqueue task lock).calls = s.calls := by cases lock <;> rfl
@[simp] theorem enqueue_monitor (s : Manager) (task : ManagerTask) (lock : ManagerLock) :
    (s.enqueue task lock).monitor = s.monitor := by cases lock <;> rfl
@[simp] theorem set_queue_calls (s : Manager) (lock : ManagerLock) (queue : List ManagerTask) :
    (s.set_queue lock queue).calls = s.calls := by cases lock <;> rfl
@[simp] theorem set_queue_monitor (s : Manager) (lock : ManagerLock) (queue : List ManagerTask) :
    (s.set_queue lock queue).monitor = s.monitor := by cases lock <;> rfl

/-! ## The deadlock -/

/-- A set of tasks in which each one waits for a lock that another one holds. -/
def Deadlocked (s : Manager) : Prop :=
  Lib.Deadlocked (fun task lock => (s.holds task lock).isSome)
    (fun task lock => (s.wants task).map Prod.fst = some lock)

/-- The monitor holds the forwards and waits for the handle. -/
def Registers (s : Manager) : Prop := s.monitor = .wait_register

/-- A call holds the handle and waits for the forwards. -/
def Updates (s : Manager) : Prop := ∃ task ∈ s.calls, task.phase = .wait_forwards

theorem call_order {s : Manager} {index : Nat} {lock lock' : ManagerLock}
    (hhold : (s.holds (.call index) lock).isSome)
    (hwant : (s.wants (.call index)).map Prod.fst = some lock') :
    s.Updates ∧ lock = .handle ∧ lock' = .forwards := by
  cases htask : s.calls[index]? with
  | none => simp [holds, htask] at hhold
  | some task =>
    simp only [holds, wants, htask, Option.bind_some] at hhold hwant
    have hmem := List.mem_of_getElem? htask
    cases hphase : task.phase with
    | wait_forwards =>
      refine ⟨⟨task, hmem, hphase⟩, ?_, ?_⟩
      · cases lock <;> simp_all [CallTask.holds]
      · simpa [CallTask.wants, hphase, eq_comm] using hwant
    | wait_handle => cases lock <;> simp [CallTask.holds, hphase] at hhold
    | asking | updating | returned => simp [CallTask.wants, hphase] at hwant

theorem monitor_order {s : Manager} {lock lock' : ManagerLock}
    (hhold : (s.holds .monitor lock).isSome)
    (hwant : (s.wants .monitor).map Prod.fst = some lock') :
    s.Registers ∧ lock = .forwards ∧ lock' = .handle := by
  unfold Registers
  simp only [holds, wants] at hhold hwant
  generalize s.monitor = phase at hhold hwant ⊢
  cases phase <;> cases lock <;> cases lock' <;> revert hhold hwant <;> decide

theorem deadlocked_iff (s : Manager) : s.Deadlocked ↔ s.Registers ∧ s.Updates := by
  constructor
  · intro hdead
    by_contra hapart
    revert hdead
    rcases not_and_or.mp hapart with hmonitor | hcalls
    -- only calls hold one lock and wait for the other
    · refine not_deadlocked_of_rank (fun lock => if lock = .handle then 0 else 1) ?_
      rintro (index | _) lock lock' hhold hwant
      · obtain ⟨-, rfl, rfl⟩ := call_order hhold hwant
        exact Nat.zero_lt_one
      · exact absurd (monitor_order hhold hwant).1 hmonitor
    -- only the monitor does
    · refine not_deadlocked_of_rank (fun lock => if lock = .forwards then 0 else 1) ?_
      rintro (index | _) lock lock' hhold hwant
      · exact absurd (call_order hhold hwant).1 hcalls
      · obtain ⟨-, rfl, rfl⟩ := monitor_order hhold hwant
        exact Nat.zero_lt_one
  · rintro ⟨hmonitor, task, htask, hphase⟩
    obtain ⟨index, hindex⟩ := List.mem_iff_getElem?.mp htask
    refine ⟨{.call index, .monitor}, ⟨_, .inl rfl⟩, ?_⟩
    rintro t (rfl | rfl)
    · refine ⟨.forwards, ?_, .monitor, .inr rfl, ManagerTask.noConfusion, ?_⟩
      · simp [wants, hindex, CallTask.wants, hphase]
      · simp [holds, show s.monitor = .wait_register from hmonitor, MonitorPhase.holds]
    · refine ⟨.handle, ?_, .call index, .inl rfl, ManagerTask.noConfusion, ?_⟩
      · simp [wants, show s.monitor = .wait_register from hmonitor, MonitorPhase.wants]
      · simp [holds, hindex, CallTask.holds, hphase]

/-! ## What a step does -/

/-- What a step does to the tasks. -/
inductive Moves (s : Manager) : ManagerStep → Manager → Prop where
  | call {call : ManagerCall} {s' : Manager} (hmonitor : s'.monitor = s.monitor)
      (hcalls : s'.calls = s.calls ++ [⟨call, .wait_handle, none⟩]) : Moves s (.call call) s'
  | grant_call {lock : ManagerLock} {index : Nat} {task : CallTask} {s' : Manager}
      (htask : s.calls[index]? = some task) (hmonitor : s'.monitor = s.monitor)
      (hcalls : s'.calls = s.calls.set index task.granted) : Moves s (.grant lock) s'
  | grant_monitor {lock : ManagerLock} {s' : Manager} (hmonitor : s'.monitor = s.monitor.granted)
      (hcalls : s'.calls = s.calls) : Moves s (.grant lock) s'
  | ask_forwards {index : Nat} {port : UInt32} {task task' : CallTask} {s' : Manager}
      (htask : s.calls[index]? = some task) (hupdate : task.call.update.isSome)
      (hphase : task'.phase = .wait_forwards) (hmonitor : s'.monitor = s.monitor)
      (hcalls : s'.calls = s.calls.set index task') : Moves s (.answer index (some port)) s'
  | answer {index : Nat} {reply : Option UInt32} {task task' : CallTask} {s' : Manager}
      (htask : s.calls[index]? = some task) (hreply : reply.isSome → task.call.update = none)
      (hphase : task'.phase = .returned) (hmonitor : s'.monitor = s.monitor)
      (hcalls : s'.calls = s.calls.set index task') : Moves s (.answer index reply) s'
  | update {index : Nat} {task task' : CallTask} {s' : Manager}
      (htask : s.calls[index]? = some task) (hphase : task'.phase = .returned)
      (hmonitor : s'.monitor = s.monitor) (hcalls : s'.calls = s.calls.set index task') :
      Moves s (.update index) s'
  | session_closes {s' : Manager} (hmonitor : s'.monitor = s.monitor)
      (hcalls : s'.calls = s.calls) : Moves s .session_closes s'
  -- a step of the monitor
  | monitor {i : ManagerStep} {s' : Manager} (hcalls : s'.calls = s.calls)
      (hmonitor : s'.monitor ≠ .wait_register) (hlook : i = .look → s.forwards = ∅)
      (hanswer : ∀ index reply, i ≠ .answer index reply) : Moves s i s'
  | look {s' : Manager} (hforwards : s.forwards ≠ ∅) (hmonitor : s'.monitor = .wait_register)
      (hcalls : s'.calls = s.calls) : Moves s .look s'

theorem grant_moves {s s' : Manager} {lock : ManagerLock} (h : s.grant lock = some s') :
    s.Moves (.grant lock) s' := by
  unfold grant at h
  split at h
  · cases h
  · rename_i task queue hqueue
    split at h
    · split at h
      · cases task with
        | call index =>
          obtain ⟨task, htask, rfl⟩ := Option.map_eq_some_iff.mp h
          rw [set_queue_calls] at htask
          exact .grant_call htask (by simp [set_call]) (by simp [set_call])
        | monitor =>
          obtain rfl := Option.some.inj h
          exact .grant_monitor (by simp) (by simp)
      · cases h
    · cases h

theorem answer_moves {s s' : Manager} {index : Nat} {reply : Option UInt32}
    (h : s.answer index reply = some s') : s.Moves (.answer index reply) s' := by
  unfold answer at h
  split at h
  · rename_i task htask
    split at h
    · split at h
      · rename_i hupdate
        obtain ⟨port, rfl⟩ := Option.isSome_iff_exists.mp hupdate.1
        obtain rfl := Option.some.inj h
        exact .ask_forwards htask hupdate.2 rfl (enqueue_monitor ..) (enqueue_calls ..)
      · rename_i hreturn
        obtain rfl := Option.some.inj h
        refine .answer htask (fun hreply => ?_) rfl rfl rfl
        simpa [hreply] using hreturn
    · cases h
  · cases h

theorem update_moves {s s' : Manager} {index : Nat} (h : s.update index = some s') :
    s.Moves (.update index) s' := by
  unfold update at h
  split at h
  · rename_i task htask
    split at h
    · obtain rfl := Option.some.inj h
      exact .update htask rfl rfl rfl
    · cases h
  · cases h

theorem step_moves {s s' : Manager} {i : ManagerStep} (h : s.step i = some s') : s.Moves i s' := by
  cases i with
  | call call =>
    obtain rfl := Option.some.inj h
    exact .call (enqueue_monitor ..) (enqueue_calls ..)
  | grant lock => exact grant_moves h
  | answer index reply => exact answer_moves h
  | update index => exact update_moves h
  | session_closes =>
    obtain rfl := Option.some.inj h
    exact .session_closes rfl rfl
  | wake =>
    obtain ⟨-, rfl⟩ := by simpa [step] using h
    exact .monitor (by simp) (by simp) nofun nofun
  | check =>
    simp only [step] at h
    split at h
    · split at h <;> obtain rfl := Option.some.inj h <;> exact .monitor rfl (by simp) nofun nofun
    · cases h
  | establish_session ok =>
    simp only [step] at h
    split at h
    · split at h <;> obtain rfl := Option.some.inj h <;>
        exact .monitor (by simp) (by simp) nofun nofun
    · cases h
  | swap =>
    obtain ⟨-, rfl⟩ := by simpa [step] using h
    exact .monitor (by simp) (by simp) nofun nofun
  | look =>
    simp only [step] at h
    split at h
    · split at h
      · rename_i hnone
        obtain rfl := Option.some.inj h
        exact .monitor rfl (by simp) (fun _ => hnone) nofun
      · rename_i hsome
        obtain rfl := Option.some.inj h
        exact .look hsome (by simp) (by simp)
    · cases h
  | register =>
    obtain ⟨-, rfl⟩ := by simpa [step] using h
    exact .monitor rfl (by simp) nofun nofun

/-! ## Runs without a deadlock -/

/-- The step does not make the second of two tasks wait. -/
def KeepsApart (s : Manager) : ManagerStep → Prop
  | .answer index reply => s.Registers → reply.isSome →
      ∀ task, s.calls[index]? = some task → task.call.update = none
  | .look => s.forwards ≠ ∅ → ¬ s.Updates
  | _ => True

theorem granted_call_phase (task : CallTask) : task.granted.phase ≠ .wait_forwards := by
  unfold CallTask.granted
  cases hphase : task.phase <;> simp [hphase]

theorem granted_monitor_phase (phase : MonitorPhase) : phase.granted ≠ .wait_register := by
  cases phase <;> simp [MonitorPhase.granted]

theorem updates_set {s s' : Manager} {index : Nat} {task' : CallTask}
    (hcalls : s'.calls = s.calls.set index task') (hphase : task'.phase ≠ .wait_forwards) :
    s'.Updates → s.Updates := by
  rintro ⟨task, htask, hwait⟩
  rw [hcalls] at htask
  rcases List.mem_or_eq_of_mem_set htask with hold | rfl
  · exact ⟨task, hold, hwait⟩
  · exact absurd hwait hphase

theorem deadlock_step {s s' : Manager} {i : ManagerStep} (h : ¬ s.Deadlocked)
    (hstep : s.step i = some s') : ¬ s'.Deadlocked ↔ s.KeepsApart i := by
  rw [deadlocked_iff] at h ⊢
  cases step_moves hstep with
  | call hmonitor hcalls =>
    refine iff_of_true (fun ⟨hregisters, task, htask, hwait⟩ => h ⟨?_, task, ?_, hwait⟩) trivial
    · exact hmonitor.symm.trans hregisters
    · rw [hcalls] at htask
      rcases List.mem_append.mp htask with hold | hnew
      · exact hold
      · rw [List.mem_singleton.mp hnew] at hwait
        cases hwait
  | grant_call htask hmonitor hcalls =>
    refine iff_of_true (fun ⟨hregisters, hupdates⟩ => h ⟨?_, ?_⟩) trivial
    · exact hmonitor.symm.trans hregisters
    · exact updates_set hcalls (granted_call_phase _) hupdates
  | grant_monitor hmonitor hcalls =>
    refine iff_of_true (fun ⟨hregisters, _⟩ => ?_) trivial
    exact granted_monitor_phase _ (hmonitor.symm.trans hregisters)
  | @ask_forwards index port task task' _ htask hupdate hphase hmonitor hcalls =>
    have hlt := (List.getElem?_eq_some_iff.mp htask).1
    have hupdates : s'.Updates := ⟨task', hcalls ▸ List.mem_set hlt task', hphase⟩
    constructor
    · intro hno hregisters
      exact absurd ⟨hmonitor.trans hregisters, hupdates⟩ hno
    · rintro hapart ⟨hregisters, -⟩
      have hnone := hapart (hmonitor.symm.trans hregisters) rfl task htask
      simp [hnone] at hupdate
  | answer htask hreply hphase hmonitor hcalls =>
    refine iff_of_true (fun ⟨hregisters, hupdates⟩ => h ⟨?_, ?_⟩) fun _ hsome task' htask' => ?_
    · exact hmonitor.symm.trans hregisters
    · exact updates_set hcalls (by simp [hphase]) hupdates
    · rw [← Option.some.inj (htask.symm.trans htask')]
      exact hreply hsome
  | update htask hphase hmonitor hcalls =>
    refine iff_of_true (fun ⟨hregisters, hupdates⟩ => h ⟨?_, ?_⟩) trivial
    · exact hmonitor.symm.trans hregisters
    · exact updates_set hcalls (by simp [hphase]) hupdates
  | session_closes hmonitor hcalls =>
    refine iff_of_true (fun ⟨hregisters, task, htask, hwait⟩ => ?_) trivial
    exact h ⟨hmonitor.symm.trans hregisters, task, hcalls ▸ htask, hwait⟩
  | monitor hcalls hmonitor hlook hanswer =>
    refine iff_of_true (fun ⟨hregisters, _⟩ => hmonitor hregisters) ?_
    cases i with
    | look => exact fun hsome => absurd (hlook rfl) hsome
    | answer index reply => exact absurd rfl (hanswer index reply)
    | _ => trivial
  | look hforwards hmonitor hcalls =>
    constructor
    · rintro hno - ⟨task, htask, hwait⟩
      exact hno ⟨hmonitor, task, hcalls ▸ htask, hwait⟩
    · rintro hapart ⟨-, task, htask, hwait⟩
      exact hapart hforwards ⟨task, hcalls ▸ htask, hwait⟩

end Alknet.Manager

namespace Alknet

/-- **Runs without a deadlock** are those in which no step makes the second of two tasks wait. -/
theorem manager_no_deadlock_iff (forwards : Finset ForwardRequest) (steps : List ManagerStep) :
    Throughout Manager.step (fun s => ¬ s.Deadlocked) { ChannelManager.new with forwards } steps ↔
      EachStep Manager.step Manager.KeepsApart { ChannelManager.new with forwards } steps := by
  refine throughout_iff (fun _ _ _ => Manager.deadlock_step) ?_ steps
  rw [Manager.deadlocked_iff]
  exact fun ⟨hregisters, _⟩ => MonitorPhase.noConfusion hregisters

/-- A second request gets the handle just before the monitor finds the forward, and its reply just
after. -/
theorem manager_deadlocks :
    ∃ s, run Manager.step ChannelManager.new
        [.call (.request_tcpip_forward ⟨"0.0.0.0", 8080⟩), .grant .handle, .answer 0 (some 8080),
          .grant .forwards, .update 0, .session_closes, .wake, .grant .handle, .check,
          .establish_session true, .grant .handle, .swap, .grant .forwards,
          .call (.request_tcpip_forward ⟨"0.0.0.0", 9090⟩), .grant .handle, .look,
          .answer 1 (some 9090)] = some s ∧ s.Deadlocked := by
  let first : CallTask :=
    ⟨.request_tcpip_forward ⟨"0.0.0.0", 8080⟩, .returned, some (.port 8080)⟩
  let second : CallTask :=
    ⟨.request_tcpip_forward ⟨"0.0.0.0", 9090⟩, .wait_forwards, some (.port 9090)⟩
  refine ⟨⟨false, {⟨"0.0.0.0", 8080⟩}, 0, [first, second], .wait_register, [.monitor],
    [.call 1]⟩, rfl, ?_⟩
  exact (Manager.deadlocked_iff _).mpr ⟨rfl, second, by simp, rfl⟩

end Alknet
