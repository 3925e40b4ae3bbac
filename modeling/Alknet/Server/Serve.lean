import Alknet.Code.Server.Serve
import Alknet.Lib.Run
import Mathlib.Tactic.Common

/-!
# The list of sessions and the shutdown of a server

An entry of the list stays when its session ends. At the end of the shutdown, a connection that is
still in its setup is not in the list, and for those in the list only the task that waits for the
session is stopped. Each of the two properties that the list is there for holds in a run exactly
when none of this comes up.
-/

open Alknet.Lib Alknet.Rust

namespace Alknet

namespace Serving

/-! ## What a step does -/

inductive Moves (s : Serving) : ServeStep → Serving → Prop where
  | check (hphase : s.phase = .checking) :
      Moves s .check { s with phase := if s.shutdown.value then .send_shutdown else .selecting }
  | accept (hphase : s.phase = .selecting) :
      Moves s (.accept true) { s with
        phase := .checking, connections := s.connections ++ [⟨.setup, .unspawned, .unspawned⟩] }
  | refuse (hphase : s.phase = .selecting) :
      Moves s (.accept false) { s with phase := .checking }
  | changed (hphase : s.phase = .selecting) (hready : s.shutdown.ready) :
      Moves s .changed { s with phase := .send_shutdown }
  | send_shutdown (hphase : s.phase = .send_shutdown) :
      Moves s .send_shutdown { s with
        phase := .wait_sessions, shutdown := s.shutdown.send true }
  | lock_sessions (hphase : s.phase = .wait_sessions) :
      Moves s .lock_sessions { s with phase := .disconnecting 0 }
  | disconnect {index : Nat} (hphase : s.phase = .disconnecting index)
      (hlt : index < s.sessions.length) :
      Moves s .disconnect { s with phase := .disconnecting (index + 1) }
  | disconnected_all {index : Nat} (hphase : s.phase = .disconnecting index)
      (hall : s.sessions.length ≤ index) : Moves s .disconnect { s with phase := .draining }
  | drain (hphase : s.phase = .draining) :
      Moves s .drain { s with
        phase := .returned
        connections := s.connections.mapIdx fun index connection =>
          if index ∈ s.sessions then connection.abort else connection
        sessions := [] }
  | setup {index : Nat} {outcome : Setup} {connection connection' : ServedConnection}
      (hconnection : s.connections[index]? = some connection)
      (hsetup : connection.phase = .setup)
      (hout : connection.set_up s.stealth s.transport_is_tls outcome = some connection') :
      Moves s (.setup index outcome) { s with connections := s.connections.set index connection' }
  | push {index : Nat} {connection : ServedConnection}
      (hconnection : s.connections[index]? = some connection)
      (hpushing : connection.phase = .pushing) (hfree : s.sessions_locked = false) :
      Moves s (.push index) { s with
        connections := s.connections.set index { connection with phase := .finished }
        sessions := s.sessions ++ [index] }
  | session_ends {index : Nat} {connection : ServedConnection}
      (hconnection : s.connections[index]? = some connection)
      (hrunning : connection.session = .running) :
      Moves s (.session_ends index) { s with
        connections := s.connections.set index { connection with session := .ended } }
  | join_ends {index : Nat} {connection : ServedConnection}
      (hconnection : s.connections[index]? = some connection)
      (hended : connection.session = .ended) (hjoin : connection.join = .running) :
      Moves s (.join_ends index) { s with
        connections := s.connections.set index { connection with join := .ended } }
  | send {value : Bool} : Moves s (.send value) { s with shutdown := s.shutdown.send value }

theorem step_moves {s s' : Serving} {i : ServeStep} (h : s.step i = some s') : s.Moves i s' := by
  cases i with
  | check =>
    obtain ⟨hphase, rfl⟩ := by simpa [step] using h
    exact .check hphase
  | accept allowed =>
    cases allowed with
    | true =>
      obtain ⟨hphase, rfl⟩ := by simpa [step] using h
      exact .accept hphase
    | false =>
      obtain ⟨hphase, rfl⟩ := by simpa [step] using h
      exact .refuse hphase
  | changed =>
    obtain ⟨⟨hphase, hready⟩, rfl⟩ := by simpa [step] using h
    exact .changed hphase hready
  | send_shutdown =>
    obtain ⟨hphase, rfl⟩ := by simpa [step] using h
    exact .send_shutdown hphase
  | lock_sessions =>
    obtain ⟨hphase, rfl⟩ := by simpa [step] using h
    exact .lock_sessions hphase
  | disconnect =>
    simp only [step] at h
    split at h
    · rename_i index hphase
      split at h
      · rename_i hlt
        exact Option.some.inj h ▸ .disconnect hphase hlt
      · rename_i hall
        exact Option.some.inj h ▸ .disconnected_all hphase (Nat.not_lt.mp hall)
    · cases h
  | drain =>
    obtain ⟨hphase, rfl⟩ := by simpa [step] using h
    exact .drain hphase
  | setup index outcome =>
    simp only [step] at h
    split at h
    · rename_i connection hconnection
      split at h
      · rename_i hsetup
        obtain ⟨connection', hout, rfl⟩ := Option.map_eq_some_iff.mp h
        exact .setup hconnection hsetup hout
      · cases h
    · cases h
  | push index =>
    simp only [step] at h
    split at h
    · rename_i connection hconnection
      split at h
      · rename_i hguard
        exact Option.some.inj h ▸ .push hconnection hguard.1 hguard.2
      · cases h
    · cases h
  | session_ends index =>
    simp only [step] at h
    split at h
    · rename_i connection hconnection
      split at h
      · rename_i hrunning
        exact Option.some.inj h ▸ .session_ends hconnection hrunning
      · cases h
    · cases h
  | join_ends index =>
    simp only [step] at h
    split at h
    · rename_i connection hconnection
      split at h
      · rename_i hguard
        exact Option.some.inj h ▸ .join_ends hconnection hguard.1 hguard.2
      · cases h
    · cases h
  | send value => exact Option.some.inj h ▸ .send

/-! ## The entries of the list -/

def session_of (s : Serving) (index : Nat) : Option TaskState :=
  s.connections[index]?.map ServedConnection.session

/-- The session of the connection with this index is running. -/
def Running (s : Serving) (index : Nat) : Prop := s.session_of index = some .running

/-- Each entry belongs to a running session. -/
def Tracked (s : Serving) : Prop := ∀ index ∈ s.sessions, s.Running index

def KeepsTracked (s : Serving) : ServeStep → Prop
  | .push index => s.Running index
  | .session_ends index => index ∉ s.sessions
  | _ => True

theorem session_of_eq {s : Serving} {index : Nat} {connection : ServedConnection}
    (hconnection : s.connections[index]? = some connection) :
    s.session_of index = some connection.session := by
  rw [session_of, hconnection, Option.map_some]

theorem session_of_set {s s' : Serving} {index : Nat} {connection connection' : ServedConnection}
    (hconnection : s.connections[index]? = some connection)
    (hset : s'.connections = s.connections.set index connection') (other : Nat) :
    s'.session_of other =
      if other = index then some connection'.session else s.session_of other := by
  have hlt := (List.getElem?_eq_some_iff.mp hconnection).1
  unfold session_of
  rw [hset]
  by_cases heq : other = index
  · simp [heq, hlt]
  · simp [heq, List.getElem?_set_ne (Ne.symm heq)]

theorem session_of_same {s s' : Serving} {index : Nat} {connection : ServedConnection}
    (connection' : ServedConnection) (hconnection : s.connections[index]? = some connection)
    (hset : s'.connections = s.connections.set index connection')
    (hsame : connection'.session = connection.session) (other : Nat) :
    s'.session_of other = s.session_of other := by
  rw [session_of_set hconnection hset, hsame]
  split
  · rename_i heq
    rw [heq, session_of_eq hconnection]
  · rfl

theorem session_of_accepted {s s' : Serving}
    (hadd : s'.connections = s.connections ++ [⟨.setup, .unspawned, .unspawned⟩]) (index : Nat) :
    s'.session_of index =
      if index = s.connections.length then some .unspawned else s.session_of index := by
  unfold session_of
  rw [hadd]
  rcases Nat.lt_trichotomy index s.connections.length with hlt | rfl | hgt
  · rw [List.getElem?_append_left hlt, if_neg (Nat.ne_of_lt hlt)]
  · simp
  · rw [if_neg (Nat.ne_of_gt hgt), List.getElem?_eq_none (by rw [List.length_append]; exact hgt),
      List.getElem?_eq_none (Nat.le_of_lt hgt)]

theorem session_of_drained {s s' : Serving}
    (hdrained : s'.connections = s.connections.mapIdx fun index connection =>
      if index ∈ s.sessions then connection.abort else connection) (index : Nat) :
    s'.session_of index = s.session_of index := by
  unfold session_of
  rw [hdrained, List.getElem?_mapIdx]
  cases s.connections[index]? with
  | none => rfl
  | some connection =>
    simp only [Option.map_some]
    split <;> rfl

theorem set_up_running {stealth transport_is_tls : Bool} {outcome : Setup}
    {connection connection' : ServedConnection}
    (hout : connection.set_up stealth transport_is_tls outcome = some connection')
    (hrunning : connection.session = .running) : connection'.session = .running := by
  cases outcome with
  | session => rw [← Option.some.inj hout]
  | http =>
    obtain ⟨-, rfl⟩ := by simpa [ServedConnection.set_up] using hout
    exact hrunning
  | failed => rw [← Option.some.inj hout]; exact hrunning

theorem tracked_step {s s' : Serving} {i : ServeStep} (h : s.Tracked) (hstep : s.step i = some s') :
    s'.Tracked ↔ s.KeepsTracked i := by
  cases step_moves hstep with
  | check | refuse | changed | send_shutdown | lock_sessions | disconnect | disconnected_all
  | send => exact iff_of_true h trivial
  | accept =>
    refine iff_of_true (fun index hindex => ?_) trivial
    have hlt : index ≠ s.connections.length := by
      rintro rfl
      simpa [Running, session_of] using h _ hindex
    rw [Running, session_of_accepted rfl, if_neg hlt]
    exact h index hindex
  | drain => exact iff_of_true (fun _ hindex => absurd hindex List.not_mem_nil) trivial
  | setup hconnection hsetup hout =>
    refine iff_of_true (fun other hother => ?_) trivial
    have hrunning := h other hother
    rw [Running, session_of_set hconnection rfl]
    split
    · rename_i heq
      rw [heq, Running, session_of_eq hconnection, Option.some.injEq] at hrunning
      rw [set_up_running hout hrunning]
    · exact hrunning
  | @push index connection hconnection hpushing hfree =>
    constructor
    · intro hall
      have hnew := hall index (List.mem_append_right _ (List.mem_singleton_self index))
      rwa [Running, session_of_same { connection with phase := .finished } hconnection rfl rfl]
        at hnew
    · intro hrunning other hother
      rw [Running, session_of_same { connection with phase := .finished } hconnection rfl rfl]
      rcases List.mem_append.mp hother with hin | hnew
      · exact h other hin
      · exact List.mem_singleton.mp hnew ▸ hrunning
  | @session_ends index connection hconnection hrunning =>
    constructor
    · intro hall hin
      have hnew := hall index hin
      rw [Running, session_of_set hconnection rfl, if_pos rfl] at hnew
      cases hnew
    · intro hout other hother
      have hne : other ≠ index := fun heq => hout (heq ▸ hother)
      rw [Running, session_of_set hconnection rfl, if_neg hne]
      exact h other hother
  | @join_ends index connection hconnection =>
    refine iff_of_true (fun other hother => ?_) trivial
    rw [Running, session_of_same { connection with join := .ended } hconnection rfl rfl]
    exact h other hother

/-! ## The entries by the order of the steps -/

/-- The session was entered in the list, and the list was not drained since. -/
def Entered (before : List ServeStep) (index : Nat) : Prop :=
  ∃ earlier later, before = earlier ++ .push index :: later ∧ .drain ∉ later

/-- The step ends a session that is in the list, or enters one that has ended. -/
def Outdates (before : List ServeStep) : ServeStep → Prop
  | .push index => .session_ends index ∈ before
  | .session_ends index => Entered before index
  | _ => False

theorem entered_cons {before : List ServeStep} {i : ServeStep} {index : Nat} :
    Entered (i :: before) index ↔
      i = .push index ∧ .drain ∉ before ∨ Entered before index := by
  constructor
  · rintro ⟨earlier, later, heq, hlater⟩
    cases earlier with
    | nil =>
      obtain ⟨rfl, rfl⟩ := List.cons.inj heq
      exact .inl ⟨rfl, hlater⟩
    | cons j earlier =>
      obtain ⟨rfl, rfl⟩ := List.cons.inj heq
      exact .inr ⟨earlier, later, rfl, hlater⟩
  · rintro (⟨rfl, hlater⟩ | ⟨earlier, later, rfl, hlater⟩)
    · exact ⟨[], before, rfl, hlater⟩
    · exact ⟨i :: earlier, later, rfl, hlater⟩

theorem not_entered_nil {index : Nat} : ¬ Entered [] index := by
  rintro ⟨earlier, later, heq, -⟩
  simp at heq

theorem entered_snoc {before : List ServeStep} {i : ServeStep} {index : Nat} :
    Entered (before ++ [i]) index ↔ i = .push index ∨ Entered before index ∧ i ≠ .drain := by
  induction before with
  | nil => simp [entered_cons, not_entered_nil]
  | cons j before ih =>
    rw [List.cons_append, entered_cons, entered_cons, ih, List.mem_append, List.mem_singleton,
      eq_comm (a := ServeStep.drain)]
    tauto

end Serving

structure ServedConnection.Spawned (connection : ServedConnection) : Prop where
  not_yet : connection.phase = .setup → connection.session = .unspawned
  before_push : connection.phase = .pushing → connection.session ≠ .unspawned

theorem ServedConnection.Spawned.set_up {stealth transport_is_tls : Bool} {outcome : Setup}
    {connection connection' : ServedConnection} (h : connection.Spawned)
    (hsetup : connection.phase = .setup)
    (hout : connection.set_up stealth transport_is_tls outcome = some connection') :
    connection'.Spawned ∧ connection'.session ≠ .ended := by
  have hsession := h.not_yet hsetup
  cases outcome with
  | session =>
    rw [← Option.some.inj hout]
    exact ⟨⟨ConnectionPhase.noConfusion, fun _ => TaskState.noConfusion⟩, TaskState.noConfusion⟩
  | http =>
    obtain ⟨-, rfl⟩ := by simpa [ServedConnection.set_up] using hout
    exact ⟨⟨ConnectionPhase.noConfusion, ConnectionPhase.noConfusion⟩, by simp [hsession]⟩
  | failed =>
    rw [← Option.some.inj hout]
    exact ⟨⟨ConnectionPhase.noConfusion, ConnectionPhase.noConfusion⟩, by simp [hsession]⟩

namespace Serving

/-- What the steps so far say of the state. -/
structure Recounts (before : List ServeStep) (s : Serving) : Prop where
  listed : ∀ index, index ∈ s.sessions ↔ Entered before index
  ended : ∀ index, s.session_of index = some .ended ↔ .session_ends index ∈ before
  spawned : ∀ connection ∈ s.connections, connection.Spawned

theorem recounts_start (stealth transport_is_tls : Bool) (shutdown : Watch) :
    Recounts [] (Server.run_stream stealth transport_is_tls shutdown) where
  listed index := by simp [Server.run_stream, Entered]
  ended index := by simp [Server.run_stream, session_of]
  spawned _ hconnection := absurd hconnection List.not_mem_nil

theorem Recounts.next {before : List ServeStep} {s s' : Serving} {i : ServeStep}
    (h : Recounts before s)
    (hlisted : ∀ index, index ∈ s'.sessions ↔ i = .push index ∨ index ∈ s.sessions ∧ i ≠ .drain)
    (hended : ∀ index, s'.session_of index = some .ended ↔
      s.session_of index = some .ended ∨ i = .session_ends index)
    (hspawned : ∀ connection ∈ s'.connections, connection.Spawned) :
    Recounts (before ++ [i]) s' where
  listed index := by rw [hlisted, entered_snoc, h.listed]
  ended index := by
    rw [hended, h.ended, List.mem_append, List.mem_singleton]
    exact or_congr_right eq_comm
  spawned := hspawned

theorem Recounts.spawned_set {before : List ServeStep} {s : Serving} {index : Nat}
    {connection : ServedConnection} (h : Recounts before s) (hspawned : connection.Spawned) :
    ∀ other ∈ s.connections.set index connection, other.Spawned := by
  intro other hother
  rcases List.mem_or_eq_of_mem_set hother with hold | rfl
  · exact h.spawned other hold
  · exact hspawned

theorem recounts_step {before : List ServeStep} {s s' : Serving} {i : ServeStep}
    (h : Recounts before s) (hstep : s.step i = some s') : Recounts (before ++ [i]) s' := by
  cases step_moves hstep with
  | check | refuse | changed | send_shutdown | lock_sessions | disconnect | disconnected_all
  | send => exact h.next (by simp) (by simp [session_of]) h.spawned
  | accept =>
    refine h.next (by simp) (fun index => ?_) (fun connection hconnection => ?_)
    · rw [session_of_accepted rfl]
      by_cases hlast : index = s.connections.length
      · simp [hlast, session_of]
      · simp [hlast]
    · rcases List.mem_append.mp hconnection with hold | hnew
      · exact h.spawned connection hold
      · obtain rfl := List.mem_singleton.mp hnew
        exact ⟨fun _ => rfl, ConnectionPhase.noConfusion⟩
  | drain =>
    refine h.next (by simp) (fun index => ?_) (fun connection' hconnection' => ?_)
    · rw [session_of_drained rfl]
      simp
    · obtain ⟨index, hlt, rfl⟩ := List.mem_iff_getElem.mp hconnection'
      rw [List.getElem_mapIdx]
      have hspawned := h.spawned _ (List.getElem_mem (by simpa using hlt))
      split
      · exact ⟨hspawned.not_yet, hspawned.before_push⟩
      · exact hspawned
  | @setup index outcome connection connection' hconnection hsetup hout =>
    have hspawned := h.spawned connection (List.mem_of_getElem? hconnection)
    obtain ⟨hspawned', hgoing⟩ := hspawned.set_up hsetup hout
    refine h.next (by simp) (fun other => ?_) (h.spawned_set hspawned')
    rw [session_of_set hconnection rfl]
    split
    · rename_i heq
      rw [heq, session_of_eq hconnection, hspawned.not_yet hsetup]
      simp [hgoing]
    · simp
  | @push index connection hconnection hpushing hfree =>
    refine h.next (fun other => ?_) (fun other => ?_) (h.spawned_set ⟨?_, ?_⟩)
    · simp [or_comm, eq_comm]
    · rw [session_of_same { connection with phase := .finished } hconnection rfl rfl]
      simp
    · exact ConnectionPhase.noConfusion
    · exact ConnectionPhase.noConfusion
  | @session_ends index connection hconnection hrunning =>
    have hspawned := h.spawned connection (List.mem_of_getElem? hconnection)
    refine h.next (by simp) (fun other => ?_) (h.spawned_set ⟨fun hsetup => ?_, fun _ => ?_⟩)
    · rw [session_of_set hconnection rfl]
      split
      · rename_i heq
        simp [heq]
      · rename_i hne
        simp [Ne.symm hne]
    -- a running session was spawned, so the setup is over
    · rw [hspawned.not_yet hsetup] at hrunning
      cases hrunning
    · exact TaskState.noConfusion
  | @join_ends index connection hconnection hended hjoin =>
    have hspawned := h.spawned connection (List.mem_of_getElem? hconnection)
    refine h.next (by simp) (fun other => ?_)
      (h.spawned_set ⟨hspawned.not_yet, hspawned.before_push⟩)
    rw [session_of_same { connection with join := .ended } hconnection rfl rfl]
    simp

theorem keepsTracked_iff {before : List ServeStep} {s s' : Serving} {i : ServeStep}
    (h : Recounts before s) (hstep : s.step i = some s') :
    s.KeepsTracked i ↔ ¬ Outdates before i := by
  cases step_moves hstep with
  | check | accept | refuse | changed | send_shutdown | lock_sessions | disconnect
  | disconnected_all | drain | setup | join_ends | send => exact iff_of_true trivial id
  | @push index connection hconnection hpushing hfree =>
    have hspawned := (h.spawned _ (List.mem_of_getElem? hconnection)).before_push hpushing
    rw [KeepsTracked, Outdates, ← h.ended, Running, session_of_eq hconnection]
    cases hsession : connection.session with
    | unspawned => exact absurd hsession hspawned
    | running => simp
    | ended => simp
  | @session_ends index connection hconnection hrunning =>
    rw [KeepsTracked, Outdates, h.listed]

/-! ## After the return -/

/-- Once `run_stream` has returned, no session is running, and no setup can start one. -/
def Quiet (s : Serving) : Prop :=
  s.phase = .returned →
    ∀ connection ∈ s.connections, connection.session ≠ .running ∧ connection.phase ≠ .setup

/-- At the end of the shutdown no connection is in its setup and no session is running. -/
def DrainsQuiet (s : Serving) : ServeStep → Prop
  | .drain => ∀ connection ∈ s.connections,
      connection.session ≠ .running ∧ connection.phase ≠ .setup
  | _ => True

theorem quiet_step {s s' : Serving} {i : ServeStep} (h : s.Quiet) (hstep : s.step i = some s') :
    s'.Quiet ↔ s.DrainsQuiet i := by
  cases step_moves hstep with
  | check =>
    refine iff_of_true (fun hphase => ?_) trivial
    split at hphase <;> cases hphase
  | accept | refuse | changed | send_shutdown | lock_sessions | disconnect | disconnected_all =>
    exact iff_of_true ServePhase.noConfusion trivial
  | send => exact iff_of_true h trivial
  | drain =>
    rw [Quiet, DrainsQuiet, forall_prop_of_true rfl, List.forall_mem_iff_getElem,
      List.forall_mem_iff_getElem]
    simp only [List.length_mapIdx, List.getElem_mapIdx]
    refine forall_congr' fun index => forall_congr' fun hlt => ?_
    split <;> rfl
  | setup hconnection hsetup =>
    refine iff_of_true (fun hphase => ?_) trivial
    exact absurd hsetup (h hphase _ (List.mem_of_getElem? hconnection)).2
  | push hconnection =>
    refine iff_of_true (fun hphase other hother => ?_) trivial
    rcases List.mem_or_eq_of_mem_set hother with hold | rfl
    · exact h hphase other hold
    · exact ⟨(h hphase _ (List.mem_of_getElem? hconnection)).1, ConnectionPhase.noConfusion⟩
  | session_ends hconnection =>
    refine iff_of_true (fun hphase other hother => ?_) trivial
    rcases List.mem_or_eq_of_mem_set hother with hold | rfl
    · exact h hphase other hold
    · exact ⟨TaskState.noConfusion, (h hphase _ (List.mem_of_getElem? hconnection)).2⟩
  | @join_ends index connection hconnection =>
    refine iff_of_true (fun hphase other hother => ?_) trivial
    rcases List.mem_or_eq_of_mem_set hother with hold | rfl
    · exact h hphase other hold
    · exact h hphase connection (List.mem_of_getElem? hconnection)

end Serving

/-- **Sessions and shutdown.** The list is right only if no listed session ends early, and the
return quiet only after a quiet drain. -/
theorem server_sessions_iff {stealth transport_is_tls : Bool} {shutdown : Watch}
    {steps : List ServeStep} {s : Serving}
    (hrun : run Serving.step (Server.run_stream stealth transport_is_tls shutdown) steps = some s) :
    (Throughout Serving.step Serving.Tracked (Server.run_stream stealth transport_is_tls shutdown)
        steps ↔
      ¬ Happened Serving.Outdates steps) ∧
    (Throughout Serving.step Serving.Quiet (Server.run_stream stealth transport_is_tls shutdown)
        steps ↔
      EachStep Serving.step Serving.DrainsQuiet
        (Server.run_stream stealth transport_is_tls shutdown) steps) := by
  constructor
  · have hstart := Serving.recounts_start stealth transport_is_tls shutdown
    have horder := eachStep_iff_not_happened (B := Serving.Outdates)
      (fun before t i t' h hstep =>
        ⟨Serving.recounts_step h hstep, Serving.keepsTracked_iff h hstep⟩) hstart hrun
    rw [← horder]
    refine throughout_iff (fun _ _ _ => Serving.tracked_step) ?_ steps
    exact fun _ hindex => absurd hindex List.not_mem_nil
  · exact throughout_iff (fun _ _ _ => Serving.quiet_step) ServePhase.noConfusion steps

theorem server_sessions_late :
    Throughout Serving.step Serving.Tracked (Server.run_stream false false ⟨false, false, true⟩)
        [.check, .accept true, .setup 0 .session, .push 0, .check, .send true, .changed,
          .send_shutdown, .lock_sessions, .disconnect, .disconnect, .drain, .session_ends 0] ∧
      Throughout Serving.step Serving.Quiet (Server.run_stream false false ⟨false, false, true⟩)
        [.check, .accept true, .setup 0 .failed, .check, .send true, .changed, .send_shutdown,
          .lock_sessions, .disconnect, .drain] := by
  refine ⟨(server_sessions_iff rfl).1.mpr ?_, (server_sessions_iff rfl).2.mpr ?_⟩
  · simp [happened_cons, not_happened_nil, Serving.Outdates, Serving.entered_cons,
      Serving.not_entered_nil]
  · iterate 9 refine (eachStep_cons rfl).mpr ⟨trivial, ?_⟩
    refine (eachStep_cons rfl).mpr ⟨?_, trivial⟩
    exact List.forall_mem_singleton.mpr ⟨TaskState.noConfusion, ConnectionPhase.noConfusion⟩

/-- A session that ends while it is listed, one that is set up after the return, and one that runs
on after it. -/
theorem server_forgets :
    (∃ s, run Serving.step (Server.run_stream false false ⟨false, false, true⟩)
        [.check, .accept true, .setup 0 .session, .push 0, .session_ends 0] = some s ∧
      ¬ s.Tracked) ∧
    (∃ s, run Serving.step (Server.run_stream false false ⟨false, false, true⟩)
        [.check, .accept true, .check, .send true, .changed, .send_shutdown, .lock_sessions,
          .disconnect, .drain, .setup 0 .session, .push 0] = some s ∧
      ¬ s.Quiet) ∧
    ∃ s, run Serving.step (Server.run_stream false false ⟨false, false, true⟩)
        [.check, .accept true, .setup 0 .session, .push 0, .check, .send true, .changed,
          .send_shutdown, .lock_sessions, .disconnect, .disconnect, .drain] = some s ∧
      ¬ s.Quiet := by
  refine ⟨⟨_, rfl, fun htracked => ?_⟩, ⟨_, rfl, fun hquiet => ?_⟩, _, rfl, fun hquiet => ?_⟩
  · have hrunning := htracked 0 (List.mem_singleton_self 0)
    cases hrunning
  · exact (hquiet rfl _ (List.mem_singleton_self _)).1 rfl
  · exact (hquiet rfl _ (List.mem_singleton_self _)).1 rfl

end Alknet
