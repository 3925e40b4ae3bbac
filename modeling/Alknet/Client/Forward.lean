import Alknet.Code.Client.Forward
import Alknet.Lib.Run

/-!
# How long a local forwarder runs

A forwarder's task is cut off by its `cancel_rx` or by an abort. The sender of `cancel_rx` lives for
one iteration of the loop that spawns, so the task can be cut off long before the shutdown.
-/

open Alknet.Lib Alknet.Rust

namespace Alknet

/-- The task ended, and not because its `run` returned. -/
def TaskPhase.cut : TaskPhase → Bool
  | .stopped | .aborted => true
  | .spawned | .accepting | .locking | .returned => false

/-! ## What a step does -/

theorem task_step_running {cancel_tx : Bool} {task task' : ForwarderTask} {i : TaskStep}
    (h : task.step cancel_tx i = some task') : task.phase.running := by
  unfold ForwarderTask.step at h
  grind [TaskPhase.running]

theorem task_step_cut {cancel_tx : Bool} {task task' : ForwarderTask} {i : TaskStep}
    (h : task.step cancel_tx i = some task') :
    task'.listening = true ∧ task'.phase.cut = true ↔ i = .cancel ∧ task.listening = true := by
  unfold ForwarderTask.step at h
  grind [TaskPhase.cut]

/-- The system can be asked for a listener. -/
def LocalForwarder.CanListen (forwarder : LocalForwarder) : Prop :=
  ∃ addr, forwarder.spec.listen_addr = .ok addr

theorem canListen_of_bind {forwarder forwarder' : LocalForwarder} {bound : Bool}
    (h : forwarder.bind bound = .ok forwarder') : forwarder.CanListen := by
  unfold LocalForwarder.bind at h
  cases haddr : forwarder.spec.listen_addr with
  | error e => rw [haddr] at h; cases h
  | ok addr => exact ⟨addr, haddr⟩

theorem bind_true {forwarder : LocalForwarder} {addr : SocketAddr}
    (h : forwarder.spec.listen_addr = .ok addr) :
    forwarder.bind true = .ok { forwarder with listener := some addr } := by
  unfold LocalForwarder.bind
  rw [h]
  rfl

theorem task_step_deaf {cancel_tx : Bool} {task task' : ForwarderTask} {i : TaskStep}
    (h : task.step cancel_tx i = some task') (hdeaf : ¬ task.forwarder.CanListen) :
    task'.forwarder.spec = task.forwarder.spec ∧ task'.listening = task.listening := by
  unfold ForwarderTask.step at h
  cases i with
  | bind bound =>
    obtain ⟨-, h⟩ := Option.ite_none_right_eq_some.mp h
    cases hbind : task.forwarder.bind bound with
    | error e =>
      rw [hbind] at h
      cases h
      exact ⟨rfl, rfl⟩
    | ok forwarder => exact absurd (canListen_of_bind hbind) hdeaf
  | accept _ | is_closed _ | cancel =>
    obtain ⟨-, h⟩ := Option.ite_none_right_eq_some.mp h
    cases h
    exact ⟨rfl, rfl⟩

theorem abort_cut (task : ForwarderTask) :
    task.abort.phase.cut = true ↔ task.phase.running = true ∨ task.phase.cut = true := by
  cases hphase : task.phase <;>
    simp [ForwarderTask.abort, hphase, TaskPhase.running, TaskPhase.cut]

theorem abort_listening (task : ForwarderTask) : task.abort.listening = task.listening := by
  unfold ForwarderTask.abort
  split <;> rfl

namespace Forwarding

inductive Moves (s : Forwarding) : ForwardStep → Forwarding → Prop where
  | spawn {forwarder : LocalForwarder} {forwarders : List LocalForwarder}
      (hphase : s.phase = .spawning) (hnext : s.forwarders = forwarder :: forwarders) :
      Moves s .spawn { s with
        forwarders := forwarders
        tasks := s.tasks ++ [⟨forwarder, .spawned, false⟩]
        phase := .pushed }
  | end_iteration (hphase : s.phase = .pushed) :
      Moves s .end_iteration { s with phase := .spawning }
  | spawned_all (hphase : s.phase = .spawning) (hall : s.forwarders = []) :
      Moves s .spawned_all { s with phase := .waiting }
  | changed (hphase : s.phase = .waiting) (hready : s.shutdown.ready) :
      Moves s .changed { s with phase := .aborting 0 }
  | abort {index : Nat} {task : ForwarderTask} (hphase : s.phase = .aborting index)
      (htask : s.tasks[index]? = some task) :
      Moves s .abort { s with
        tasks := s.tasks.set index task.abort, phase := .aborting (index + 1) }
  | aborted_all {index : Nat} (hphase : s.phase = .aborting index)
      (hall : s.tasks[index]? = none) : Moves s .abort { s with phase := .joining 0 }
  | join {index : Nat} {task : ForwarderTask} (hphase : s.phase = .joining index)
      (htask : s.tasks[index]? = some task) (hended : task.phase.running = false) :
      Moves s .join { s with
        phase := .joining (index + 1), results := s.results ++ task.result.toList }
  | joined_all {index : Nat} (hphase : s.phase = .joining index)
      (hall : s.tasks[index]? = none) : Moves s .join { s with phase := .returned }
  | task {index : Nat} {i : TaskStep} {task task' : ForwarderTask}
      (htask : s.tasks[index]? = some task) (hstep : task.step (s.cancel_tx index) i = some task') :
      Moves s (.task index i) { s with tasks := s.tasks.set index task' }
  | send {value : Bool} (hsenders : s.shutdown.senders = true) :
      Moves s (.send value) { s with shutdown := s.shutdown.send value }
  | drop_senders : Moves s .drop_senders { s with shutdown := { s.shutdown with senders := false } }

theorem step_moves {s s' : Forwarding} {i : ForwardStep} (h : s.step i = some s') :
    s.Moves i s' := by
  cases i with
  | spawn =>
    simp only [step] at h
    split at h
    · rename_i hphase hnext
      exact Option.some.inj h ▸ .spawn hphase hnext
    · cases h
  | end_iteration =>
    obtain ⟨hphase, rfl⟩ := by simpa [step] using h
    exact .end_iteration hphase
  | spawned_all =>
    obtain ⟨⟨hphase, hall⟩, rfl⟩ := by simpa [step] using h
    exact .spawned_all hphase hall
  | changed =>
    obtain ⟨⟨hphase, hready⟩, rfl⟩ := by simpa [step] using h
    exact .changed hphase hready
  | abort =>
    simp only [step] at h
    split at h
    · rename_i index hphase
      split at h
      · rename_i task htask
        exact Option.some.inj h ▸ .abort hphase htask
      · rename_i hall
        exact Option.some.inj h ▸ .aborted_all hphase hall
    · cases h
  | join =>
    simp only [step] at h
    split at h
    · rename_i index hphase
      split at h
      · rename_i task htask
        split at h
        · cases h
        · rename_i hended
          exact Option.some.inj h ▸ .join hphase htask (by simpa using hended)
      · rename_i hall
        exact Option.some.inj h ▸ .joined_all hphase hall
    · cases h
  | task index i =>
    simp only [step] at h
    split at h
    · rename_i task htask
      obtain ⟨task', hstep, rfl⟩ := Option.map_eq_some_iff.mp h
      exact .task htask hstep
    · cases h
  | send value =>
    obtain ⟨hsenders, rfl⟩ := by simpa [step] using h
    exact .send hsenders
  | drop_senders => exact Option.some.inj h ▸ .drop_senders

/-! ## The forwarders run until the shutdown -/

/-- No forwarder that listened was cut off before the shutdown channel changed. -/
def KeepRunning (s : Forwarding) : Prop :=
  ∀ task ∈ s.tasks, task.listening = true ∧ task.phase.cut = true → s.shutdown.changed

/-- The step cuts off a task in its loop. -/
def Cuts (s : Forwarding) : ForwardStep → Prop
  | .task index i => i = .cancel ∧ ∃ task, s.tasks[index]? = some task ∧ task.listening
  | .abort => ∃ index task, s.phase = .aborting index ∧ s.tasks[index]? = some task ∧
      task.listening ∧ task.phase.running
  | _ => False

theorem keepRunning_set {s s' : Forwarding} {index : Nat} {task task' : ForwarderTask}
    (h : s.KeepRunning) (htask : s.tasks[index]? = some task)
    (htasks : s'.tasks = s.tasks.set index task')
    (hchanged : s'.shutdown.changed = s.shutdown.changed) :
    s'.KeepRunning ↔
      (task'.listening = true ∧ task'.phase.cut = true → s.shutdown.changed) := by
  obtain ⟨hlt, -⟩ := List.getElem?_eq_some_iff.mp htask
  unfold KeepRunning
  rw [htasks, hchanged]
  constructor
  · exact fun hall => hall task' (List.mem_set hlt task')
  · intro hnew other hother
    rcases List.mem_or_eq_of_mem_set hother with hold | rfl
    · exact h other hold
    · exact hnew

theorem keepRunning_step {s s' : Forwarding} {i : ForwardStep} (h : s.KeepRunning)
    (hstep : s.step i = some s') :
    s'.KeepRunning ↔ (s.Cuts i → s.shutdown.changed) := by
  cases step_moves hstep with
  | spawn hphase hnext =>
    refine iff_of_true (fun task htask => ?_) False.elim
    rcases List.mem_append.mp htask with hold | hnew
    · exact h task hold
    · rw [List.mem_singleton.mp hnew]
      exact fun hcut => absurd hcut.1 Bool.false_ne_true
  | end_iteration | spawned_all | changed | drop_senders => exact iff_of_true h False.elim
  | join | joined_all => exact iff_of_true h False.elim
  | send => exact iff_of_true (fun _ _ _ => rfl) False.elim
  | @abort index task hphase htask =>
    refine Iff.trans (keepRunning_set h htask rfl rfl) ?_
    rw [abort_listening, abort_cut]
    have hold := h task (List.mem_of_getElem? htask)
    constructor
    · rintro hnew ⟨index', task', hphase', htask', hlistening, hrunning⟩
      obtain rfl : index = index' := ForwardPhase.aborting.inj (hphase.symm.trans hphase')
      obtain rfl : task = task' := Option.some.inj (htask.symm.trans htask')
      exact hnew ⟨hlistening, .inl hrunning⟩
    · rintro hcuts ⟨hlistening, hrunning | hcut⟩
      · exact hcuts ⟨index, task, hphase, htask, hlistening, hrunning⟩
      · exact hold ⟨hlistening, hcut⟩
  | aborted_all hphase hall =>
    refine iff_of_true h ?_
    rintro ⟨index', task', hphase', htask', -⟩
    rw [hphase] at hphase'
    obtain rfl := ForwardPhase.aborting.inj hphase'
    simp [hall] at htask'
  | task htask htaskstep =>
    refine Iff.trans (keepRunning_set h htask rfl rfl) ?_
    rw [task_step_cut htaskstep]
    simp [Cuts, htask]

/-- Nobody can listen, or nothing is forbidden. -/
def Safe (s : Forwarding) : Prop :=
  (∀ forwarder ∈ s.forwarders, ¬ forwarder.CanListen) ∧
      (∀ task ∈ s.tasks, ¬ task.forwarder.CanListen ∧ task.listening = false) ∨
    s.shutdown.changed = true

theorem abort_forwarder (task : ForwarderTask) : task.abort.forwarder = task.forwarder := by
  unfold ForwarderTask.abort
  split <;> rfl

theorem safe_step {s s' : Forwarding} {i : ForwardStep} (h : s.Safe) (hstep : s.step i = some s') :
    s'.Safe := by
  rcases h with ⟨hforwarders, htasks⟩ | hchanged
  · cases step_moves hstep with
    | spawn hphase hnext =>
      rw [hnext] at hforwarders
      obtain ⟨hnew, hrest⟩ := List.forall_mem_cons.mp hforwarders
      exact .inl ⟨hrest, List.forall_mem_append.mpr
        ⟨htasks, List.forall_mem_singleton.mpr ⟨hnew, rfl⟩⟩⟩
    | @abort index task hphase htask =>
      refine .inl ⟨hforwarders, fun other hother => ?_⟩
      rcases List.mem_or_eq_of_mem_set hother with hold | rfl
      · exact htasks other hold
      · rw [abort_forwarder, abort_listening]
        exact htasks task (List.mem_of_getElem? htask)
    | @task index i task task' htask htaskstep =>
      refine .inl ⟨hforwarders, fun other hother => ?_⟩
      rcases List.mem_or_eq_of_mem_set hother with hold | rfl
      · exact htasks other hold
      · obtain ⟨hdeaf, hlistening⟩ := htasks task (List.mem_of_getElem? htask)
        obtain ⟨hspec, hsame⟩ := task_step_deaf htaskstep hdeaf
        refine ⟨?_, hsame.trans hlistening⟩
        rw [LocalForwarder.CanListen, hspec]
        exact hdeaf
    | send => exact .inr rfl
    | _ => exact .inl ⟨hforwarders, htasks⟩
  · cases step_moves hstep with
    | send => exact .inr rfl
    | _ => exact .inr hchanged

theorem keepRunning_of_safe {s : Forwarding} (h : s.Safe) : s.KeepRunning := by
  intro task htask hcut
  rcases h with ⟨-, htasks⟩ | hchanged
  · rw [(htasks task htask).2] at hcut
    exact absurd hcut.1 Bool.false_ne_true
  · exact hchanged

/-! ## A forwarder that can listen can be cut off -/

/-- The loop spawns these one after the other. -/
def spawn_steps (forwarders : List LocalForwarder) : List ForwardStep :=
  forwarders.flatMap fun _ => [.spawn, .end_iteration]

theorem run_spawns (forwarders rest : List LocalForwarder) (tasks : List ForwarderTask)
    (shutdown : Watch) :
    run step ⟨forwarders ++ rest, tasks, shutdown, .spawning, []⟩ (spawn_steps forwarders) =
      some ⟨rest, tasks ++ forwarders.map (⟨·, .spawned, false⟩), shutdown, .spawning, []⟩ := by
  induction forwarders generalizing tasks with
  | nil => rw [List.map_nil, List.append_nil]; rfl
  | cons forwarder forwarders ih =>
    refine (ih (tasks ++ [⟨forwarder, .spawned, false⟩])).trans ?_
    rw [List.append_assoc]
    rfl

theorem run_cut {forwarder : LocalForwarder} {addr : SocketAddr}
    (haddr : forwarder.spec.listen_addr = .ok addr) (rest : List LocalForwarder)
    (tasks : List ForwarderTask) (shutdown : Watch) :
    run step ⟨forwarder :: rest, tasks, shutdown, .spawning, []⟩
        [.spawn, .task tasks.length (.bind true), .end_iteration, .task tasks.length .cancel] =
      some ⟨rest, tasks ++ [⟨{ forwarder with listener := none }, .stopped, true⟩], shutdown,
        .spawning, []⟩ := by
  simp [run, step, ForwarderTask.step, bind_true haddr, TaskPhase.running, cancel_tx,
    LocalForwarder.stop]

end Forwarding

/-- **How long forwarders run.** They listen until the shutdown in every run only if none can listen
or it came first. -/
theorem forwarders_keep_running_iff (forwarders : List LocalForwarder) (shutdown : Watch) :
    ((∀ steps, Throughout Forwarding.step Forwarding.KeepRunning
        (run_local_forwarders forwarders shutdown) steps) ↔
      (∀ forwarder ∈ forwarders, ¬ forwarder.CanListen) ∨ shutdown.changed = true) ∧
    ∀ steps,
      Throughout Forwarding.step Forwarding.KeepRunning (run_local_forwarders forwarders shutdown)
          steps ↔
        EachStep Forwarding.step (fun s i => s.Cuts i → s.shutdown.changed)
          (run_local_forwarders forwarders shutdown) steps := by
  refine ⟨⟨fun hall => ?_, fun hsafe steps => ?_⟩, fun steps => ?_⟩
  · by_cases hcan : ∃ forwarder ∈ forwarders, forwarder.CanListen
    · obtain ⟨forwarder, hmem, addr, haddr⟩ := hcan
      obtain ⟨before, after, rfl⟩ := List.append_of_mem hmem
      have hcut := Forwarding.run_cut haddr after (before.map (⟨·, .spawned, false⟩)) shutdown
      have hspawns := Forwarding.run_spawns before (forwarder :: after) [] shutdown
      obtain ⟨steps, hrun⟩ := Reaches.trans ⟨_, hspawns⟩ ⟨_, hcut⟩
      have hlast := (hall steps).last hrun
      exact .inr (hlast _ (List.mem_append_right _ (List.mem_singleton_self _)) ⟨rfl, rfl⟩)
    · exact .inl fun forwarder hmem hlisten => hcan ⟨forwarder, hmem, hlisten⟩
  · refine throughout_of_keeps (fun _ _ _ => Forwarding.safe_step)
      (fun _ => Forwarding.keepRunning_of_safe) ?_ steps
    exact hsafe.imp_left fun hnone => ⟨hnone, nofun⟩
  · have hstart : (run_local_forwarders forwarders shutdown).KeepRunning := nofun
    exact throughout_iff (fun _ _ _ => Forwarding.keepRunning_step) hstart steps

/-- The channel has not changed, and its sender is still there. -/
theorem forwarder_cut_off :
    ∃ s, run Forwarding.step
        (run_local_forwarders [⟨⟨.Local, "127.0.0.1", 8080, "db", 5432⟩, none⟩]
          ⟨false, false, true⟩)
        [.spawn, .task 0 (.bind true), .task 0 (.accept true), .end_iteration, .task 0 .cancel] =
        some s ∧
      ¬ s.KeepRunning := by
  refine ⟨_, rfl, fun hkeep => ?_⟩
  exact absurd (hkeep _ (List.mem_singleton_self _) ⟨rfl, rfl⟩) (by decide)

end Alknet
