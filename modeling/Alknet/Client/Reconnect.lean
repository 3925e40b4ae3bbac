import Alknet.Client.ChannelManager
import Alknet.Code.Client.Reconnect

/-!
# How long a reconnect waits

Before an attempt both counters are the failures since the last success.
-/

open Alknet.Lib

namespace Alknet

/-! ## What the waits should be -/

/-- The failures since the last success, or since the start. -/
def failures (before : List SessionAttempt) : Nat :=
  (before.reverse.takeWhile (· = .failed)).length

@[simp] theorem failures_nil : failures [] = 0 := rfl

@[simp] theorem failures_concat_failed (before : List SessionAttempt) :
    failures (before ++ [.failed]) = failures before + 1 := by
  rw [failures, List.reverse_concat, List.takeWhile_cons_of_pos (by decide), List.length_cons]
  rfl

@[simp] theorem failures_concat_connected (before : List SessionAttempt) :
    failures (before ++ [.connected]) = 0 := by
  rw [failures, List.reverse_concat, List.takeWhile_cons_of_neg (by decide), List.length_nil]

/-- Doubled after each failure, and at most thirty seconds. -/
def backoff (before : List SessionAttempt) : Nat := min 30 (2 ^ failures before)

/-- Never so many failures in a row. -/
def FailuresBelow (n : Nat) (outcomes : List SessionAttempt) : Prop :=
  ∀ before, before <+: outcomes → failures before < n

theorem failures_le_length (before : List SessionAttempt) : failures before ≤ before.length := by
  have hle := (List.takeWhile_sublist (· = .failed) (l := before.reverse)).length_le
  rwa [List.length_reverse] at hle

theorem failuresBelow_of_length_lt {n : Nat} {outcomes : List SessionAttempt}
    (h : outcomes.length < n) : FailuresBelow n outcomes := fun before hbefore =>
  Nat.lt_of_le_of_lt ((failures_le_length before).trans hbefore.length_le) h

theorem backoff_secs_ofNat {k : Nat} (hk : k < 2 ^ 32) :
    backoff_secs (UInt32.ofNat k) = min 30 (2 ^ k) := by
  unfold backoff_secs
  rw [UInt32.toNat_ofNat_of_lt' hk]
  rcases k with _ | _ | _ | _ | _ | k
  · rfl
  · rfl
  · rfl
  · rfl
  · rfl
  · have hpow : 2 ^ 5 ≤ 2 ^ (k + 5) := Nat.pow_le_pow_right (by decide) (Nat.le_add_left 5 k)
    have hcap : 30 ≤ 2 ^ (k + 5) := Nat.le_trans (by decide) hpow
    exact (Nat.min_eq_left hcap).symm

/-! ## The counters -/

/-- The relation of each loop to the attempts so far. -/
def Counts (attempts : UInt32) (before : List SessionAttempt) : Prop :=
  attempts = UInt32.ofNat (failures before)

theorem counts_start : Counts 0 [] := rfl

theorem Counts.backoff {attempts : UInt32} {before : List SessionAttempt}
    (h : Counts attempts before) (hbelow : failures before < 2 ^ 32) :
    backoff_secs attempts = backoff before := by
  rw [show attempts = _ from h]
  exact backoff_secs_ofNat hbelow

theorem Counts.toNat {attempts : UInt32} {before : List SessionAttempt} (h : Counts attempts before)
    (hbelow : failures before < 2 ^ 32) : attempts.toNat = failures before := by
  rw [show attempts = _ from h, UInt32.toNat_ofNat_of_lt' hbelow]

/-- What an attempt does to the counter of either loop. -/
def count (attempts : UInt32) : SessionAttempt → UInt32
  | .connected => 0
  | .failed => attempts + 1

theorem Counts.concat {attempts : UInt32} {before : List SessionAttempt}
    (h : Counts attempts before) (outcome : SessionAttempt) :
    Counts (count attempts outcome) (before ++ [outcome]) := by
  cases outcome with
  | connected =>
    rw [Counts, failures_concat_connected]
    rfl
  | failed =>
    rw [Counts, failures_concat_failed, UInt32.ofNat_add, ← show attempts = _ from h]
    rfl

/-! ## The two loops -/

namespace ReconnectBuild

theorem add_one_eq_some {build : ReconnectBuild} {n m : UInt32} (h : build.add_one n = some m) :
    m = n + 1 := by
  unfold add_one at h
  split at h
  · cases h
  · exact (Option.some.inj h).symm

theorem add_one_of_lt {build : ReconnectBuild} {n : UInt32}
    (h : build.overflow_checks → n.toNat + 1 < 2 ^ 32) : build.add_one n = some (n + 1) :=
  if_neg fun ⟨hchecks, hmax⟩ => Nat.ne_of_lt (h hchecks) hmax

theorem warn_of_lt {build : ReconnectBuild} {n : UInt32}
    (h : build.overflow_checks → n.toNat + 1 < 2 ^ 32) : build.warn n = some () := by
  unfold warn
  rw [add_one_of_lt h]
  split <;> rfl

end ReconnectBuild

/-- What the loops have in common. -/
structure BacksOff (build : ReconnectBuild)
    (attempt : UInt32 → SessionAttempt → Nat × Option UInt32) : Prop where
  wait : ∀ n outcome, (attempt n outcome).1 = backoff_secs n
  next : ∀ n outcome m, (attempt n outcome).2 = some m → m = count n outcome
  goes_on : ∀ n outcome, (build.overflow_checks → n.toNat + 1 < 2 ^ 32) →
    (attempt n outcome).2 = some (count n outcome)

theorem ChannelManager.reconnect_backsOff (build : ReconnectBuild) :
    BacksOff build (reconnect build) where
  wait _ _ := rfl
  next n outcome m h := by
    obtain ⟨n', hn', h⟩ := Option.bind_eq_some_iff.mp h
    obtain ⟨-, -, h⟩ := Option.bind_eq_some_iff.mp h
    obtain rfl := ReconnectBuild.add_one_eq_some hn'
    cases outcome <;> exact (Option.some.inj h).symm
  goes_on n outcome h := by
    dsimp only [reconnect]
    rw [ReconnectBuild.add_one_of_lt h, ReconnectBuild.warn_of_lt h]
    cases outcome <;> rfl

theorem ClientSession.reconnect_monitor_backsOff (build : ReconnectBuild) :
    BacksOff build (reconnect_monitor build) where
  wait _ _ := rfl
  next n outcome m h := by
    obtain ⟨-, -, h⟩ := Option.bind_eq_some_iff.mp h
    cases outcome with
    | connected => exact (Option.some.inj h).symm
    | failed => exact ReconnectBuild.add_one_eq_some h
  goes_on n outcome h := by
    dsimp only [reconnect_monitor]
    rw [ReconnectBuild.add_one_of_lt h, ReconnectBuild.warn_of_lt h]
    cases outcome <;> rfl

/-- No attempt comes after `2 ^ 32 - 1` failures in a row. -/
def CountersFit (outcomes : List SessionAttempt) : Prop :=
  ∀ before outcome, before ++ [outcome] <+: outcomes → failures before + 1 < 2 ^ 32

namespace BacksOff

variable {build : ReconnectBuild} {attempt : UInt32 → SessionAttempt → Nat × Option UInt32}
  {outcomes : List SessionAttempt}

theorem wait_of_counts (h : BacksOff build attempt) (hbelow : FailuresBelow (2 ^ 32) outcomes)
    (n : UInt32) (before : List SessionAttempt) (outcome : SessionAttempt)
    (hbefore : before ++ [outcome] <+: outcomes) (hcounts : Counts n before) :
    (attempt n outcome).1 = backoff before := by
  rw [h.wait]
  exact hcounts.backoff (hbelow before ((List.prefix_append before [outcome]).trans hbefore))

theorem waits_isPrefix (h : BacksOff build attempt) (hbelow : FailuresBelow (2 ^ 32) outcomes) :
    outputs attempt 0 outcomes <+: expected backoff outcomes := by
  refine outputs_isPrefix_of (h.wait_of_counts hbelow) (fun n before outcome m _ hcounts hm => ?_)
    counts_start
  rw [h.next n outcome m hm]
  exact hcounts.concat outcome

theorem waits_eq (h : BacksOff build attempt) (hbelow : FailuresBelow (2 ^ 32) outcomes)
    (hfit : build.overflow_checks → CountersFit outcomes) :
    outputs attempt 0 outcomes = expected backoff outcomes := by
  refine outputs_eq_of (h.wait_of_counts hbelow) (fun n before outcome hbefore hcounts => ?_)
    counts_start
  refine ⟨count n outcome, h.goes_on n outcome fun hchecks => ?_, hcounts.concat outcome⟩
  rw [hcounts.toNat (hbelow before ((List.prefix_append before [outcome]).trans hbefore))]
  exact hfit hchecks before outcome hbefore

end BacksOff

/-- The waits that `ChannelManager::reconnect` chooses, called once for each outcome. -/
def ChannelManager.waits (build : ReconnectBuild) (outcomes : List SessionAttempt) : List Nat :=
  outputs (reconnect build) 0 outcomes

/-- The waits that the monitor of `ClientSession::run` chooses. -/
def ClientSession.waits (build : ReconnectBuild) (outcomes : List SessionAttempt) : List Nat :=
  outputs (reconnect_monitor build) 0 outcomes

/-- **The waits are those of the failures,** but for a panic after `2 ^ 32 - 1` failures in a row.
-/
theorem reconnect_waits_agree (warnings : Bool) (outcomes : List SessionAttempt)
    (hbelow : FailuresBelow (2 ^ 32) outcomes) :
    (ChannelManager.waits ⟨false, warnings⟩ outcomes = expected backoff outcomes ∧
      ClientSession.waits ⟨false, warnings⟩ outcomes = expected backoff outcomes) ∧
    (ChannelManager.waits ⟨true, warnings⟩ outcomes <+: expected backoff outcomes ∧
      ClientSession.waits ⟨true, warnings⟩ outcomes <+: expected backoff outcomes) ∧
    (CountersFit outcomes →
      ChannelManager.waits ⟨true, warnings⟩ outcomes = expected backoff outcomes ∧
      ClientSession.waits ⟨true, warnings⟩ outcomes = expected backoff outcomes) := by
  have hmanager := fun build => ChannelManager.reconnect_backsOff build
  have hmonitor := fun build => ClientSession.reconnect_monitor_backsOff build
  refine ⟨⟨(hmanager _).waits_eq hbelow nofun, (hmonitor _).waits_eq hbelow nofun⟩,
    ⟨(hmanager _).waits_isPrefix hbelow, (hmonitor _).waits_isPrefix hbelow⟩, fun hfit => ?_⟩
  exact ⟨(hmanager _).waits_eq hbelow fun _ => hfit, (hmonitor _).waits_eq hbelow fun _ => hfit⟩

theorem reconnect_waits_agree_after_success :
    ChannelManager.waits ⟨true, true⟩ [.failed, .failed, .connected, .failed, .failed] =
      [1, 2, 4, 1, 2] ∧
    ClientSession.waits ⟨true, true⟩ [.failed, .failed, .connected, .failed, .failed] =
      [1, 2, 4, 1, 2] := by
  refine (reconnect_waits_agree true _
    (failuresBelow_of_length_lt (by decide))).2.2 fun before outcome hbefore => ?_
  have hlength := hbefore.length_le
  rw [List.length_append, List.length_singleton] at hlength
  exact Nat.lt_of_le_of_lt (Nat.add_le_add_right (failures_le_length before) 1)
    (Nat.lt_of_le_of_lt hlength (by decide))

/-! ## The manager among its calls

No call and no answer of the server moves the counter, so the waits do not depend on them. -/

namespace Manager

/-- The outcome of the attempt that the step ends. -/
def outcome : ManagerStep → Option SessionAttempt
  | .establish_session true => some .connected
  | .establish_session false => some .failed
  | _ => none

/-- The counter, as far as the monitor got since it looked at the session. -/
def Tallies (phase : MonitorPhase) (attempts : UInt32) (before : List SessionAttempt) : Prop :=
  match phase with
  | .reconnecting => Counts attempts (before ++ [.failed])
  | .wait_swap | .swapping => failures before = 0
  | .sleeping | .wait_check | .checking | .wait_forwards | .looking | .wait_register
  | .registering => Counts attempts before

@[simp] theorem enqueue_attempts (s : Manager) (task : ManagerTask) (lock : ManagerLock) :
    (s.enqueue task lock).reconnect_attempts = s.reconnect_attempts := by cases lock <;> rfl
@[simp] theorem set_queue_attempts (s : Manager) (lock : ManagerLock) (queue : List ManagerTask) :
    (s.set_queue lock queue).reconnect_attempts = s.reconnect_attempts := by cases lock <;> rfl

theorem grant_counter {s s' : Manager} {lock : ManagerLock} (h : s.grant lock = some s') :
    (s'.monitor = s.monitor ∨ s'.monitor = s.monitor.granted) ∧
      s'.reconnect_attempts = s.reconnect_attempts := by
  unfold grant at h
  split at h
  · cases h
  · rename_i task queue hqueue
    split at h
    · split at h
      · cases task with
        | call index =>
          obtain ⟨task, htask, rfl⟩ := Option.map_eq_some_iff.mp h
          exact ⟨.inl (by simp [set_call]), by simp [set_call]⟩
        | monitor =>
          obtain rfl := Option.some.inj h
          exact ⟨.inr (by simp), by simp⟩
      · cases h
    · cases h

theorem answer_counter {s s' : Manager} {index : Nat} {reply : Option UInt32}
    (h : s.answer index reply = some s') :
    s'.monitor = s.monitor ∧ s'.reconnect_attempts = s.reconnect_attempts := by
  unfold answer at h
  split at h
  · split at h
    · split at h
      · obtain rfl := Option.some.inj h
        exact ⟨enqueue_monitor .., enqueue_attempts ..⟩
      · obtain rfl := Option.some.inj h
        exact ⟨rfl, rfl⟩
    · cases h
  · cases h

theorem update_counter {s s' : Manager} {index : Nat} (h : s.update index = some s') :
    s'.monitor = s.monitor ∧ s'.reconnect_attempts = s.reconnect_attempts := by
  unfold update at h
  split at h
  · split at h
    · obtain rfl := Option.some.inj h
      exact ⟨rfl, rfl⟩
    · cases h
  · cases h

theorem Tallies.granted {phase : MonitorPhase} {attempts : UInt32} {before : List SessionAttempt}
    (h : Tallies phase attempts before) : Tallies phase.granted attempts before := by
  cases phase <;> exact h

theorem step_tallies {s s' : Manager} {i : ManagerStep} {before : List SessionAttempt}
    (h : Tallies s.monitor s.reconnect_attempts before) (hstep : s.step i = some s') :
    Tallies s'.monitor s'.reconnect_attempts (before ++ (outcome i).toList) := by
  -- all steps but the end of an attempt
  have hquiet : outcome i = none → Tallies s'.monitor s'.reconnect_attempts before →
      Tallies s'.monitor s'.reconnect_attempts (before ++ (outcome i).toList) := by
    intro hout hafter
    rw [hout, Option.toList_none, List.append_nil]
    exact hafter
  -- the steps of the calls
  have hcall : outcome i = none →
      s'.monitor = s.monitor ∧ s'.reconnect_attempts = s.reconnect_attempts →
      Tallies s'.monitor s'.reconnect_attempts (before ++ (outcome i).toList) := by
    rintro hout ⟨hmonitor, hattempts⟩
    refine hquiet hout ?_
    rwa [hmonitor, hattempts]
  cases i with
  | call call =>
    obtain rfl := Option.some.inj hstep
    exact hcall rfl ⟨enqueue_monitor .., enqueue_attempts ..⟩
  | grant lock =>
    obtain ⟨hmonitor | hmonitor, hattempts⟩ := grant_counter hstep
    · exact hcall rfl ⟨hmonitor, hattempts⟩
    · refine hquiet rfl ?_
      rw [hmonitor, hattempts]
      exact h.granted
  | answer index reply => exact hcall rfl (answer_counter hstep)
  | update index => exact hcall rfl (update_counter hstep)
  | session_closes =>
    obtain rfl := Option.some.inj hstep
    exact hcall rfl ⟨rfl, rfl⟩
  | wake =>
    obtain ⟨hphase, rfl⟩ := by simpa [step] using hstep
    rw [hphase] at h
    exact hquiet rfl (by simpa [Tallies] using h)
  | check =>
    simp only [step] at hstep
    split at hstep
    · next hphase =>
      rw [hphase] at h
      split at hstep
      · obtain rfl := Option.some.inj hstep
        exact hquiet rfl (Counts.concat h .failed)
      · obtain rfl := Option.some.inj hstep
        exact hquiet rfl h
    · cases hstep
  | establish_session ok =>
    simp only [step] at hstep
    split at hstep
    · next hphase =>
      rw [hphase] at h
      cases ok with
      | true =>
        obtain rfl := Option.some.inj hstep
        simp [outcome, Tallies]
      | false =>
        obtain rfl := Option.some.inj hstep
        exact h
    · cases hstep
  | swap =>
    obtain ⟨hphase, rfl⟩ := by simpa [step] using hstep
    rw [hphase] at h
    refine hquiet rfl ?_
    rw [enqueue_monitor, enqueue_attempts]
    exact congrArg UInt32.ofNat h.symm
  | look =>
    simp only [step] at hstep
    split at hstep
    · next hphase =>
      rw [hphase] at h
      split at hstep
      · obtain rfl := Option.some.inj hstep
        exact hquiet rfl h
      · obtain rfl := Option.some.inj hstep
        exact hquiet rfl (by simpa [Tallies] using h)
    · cases hstep
  | register =>
    obtain ⟨hphase, rfl⟩ := by simpa [step] using hstep
    rw [hphase] at h
    exact hquiet rfl h

theorem run_tallies {s s' : Manager} {steps : List ManagerStep} {before : List SessionAttempt}
    (h : Tallies s.monitor s.reconnect_attempts before) (hrun : run step s steps = some s') :
    Tallies s'.monitor s'.reconnect_attempts (before ++ steps.filterMap outcome) := by
  induction steps generalizing s before with
  | nil =>
    obtain rfl := Option.some.inj hrun
    simpa using h
  | cons i steps ih =>
    obtain ⟨t, hstep, hrest⟩ := Option.bind_eq_some_iff.mp hrun
    have hafter := ih (step_tallies h hstep) hrest
    rw [List.append_assoc] at hafter
    cases hout : outcome i with
    | none => simpa [hout] using hafter
    | some o => simpa [hout] using hafter

theorem backoff_of_run {s : Manager} {steps : List ManagerStep}
    (hrun : run step ChannelManager.new steps = some s) (hphase : s.monitor = .checking)
    (hbelow : failures (steps.filterMap outcome) < 2 ^ 32) :
    ChannelManager.backoff_duration s.reconnect_attempts =
      backoff (steps.filterMap outcome) := by
  have hstart : Tallies ChannelManager.new.monitor ChannelManager.new.reconnect_attempts [] :=
    counts_start
  have htallies := run_tallies hstart hrun
  rw [hphase] at htallies
  exact Counts.backoff htallies hbelow

end Manager

end Alknet
