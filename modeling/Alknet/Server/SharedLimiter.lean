import Alknet.Code.Server.SharedLimiter
import Alknet.Server.RateLimit

/-!
# What several accept loops make of the limit

The count stays right. But loops that ask at the same time are all let in where there is room for
one, so the limit is exceeded by one for each loop but the first, and by no more.
-/

open Alknet.Rust Alknet.Lib

namespace Alknet.SharedLimiter

variable {s s' : SharedLimiter} {loops limit : Nat}

/-- The handlers of an IP that were let in, whether they are counted yet or not. -/
def admitted (s : SharedLimiter) (ip : IpAddr) : Nat :=
  s.live.countP (counted ip) + s.creating.countP (counted ip)

structure Counts (loops limit : Nat) (s : SharedLimiter) : Prop where
  max : s.limiter.max_per_ip = limit
  busy : s.creating.length ≤ loops
  live : ∀ ip, s.limiter.count ip = s.live.countP (counted ip)
  positive : ∀ ip, s.limiter.active.lookup ip ≠ some 0
  bounded : 0 < limit → ∀ ip, s.admitted ip < limit + loops

theorem counts_new (loops limit : Nat) : (new limit).Counts loops limit where
  max := rfl
  busy := Nat.zero_le _
  live := fun _ => rfl
  positive := fun _ => nofun
  bounded := fun hpos ip => by
    rw [admitted]
    exact Nat.add_pos_left hpos loops

theorem Counts.check (h : s.Counts loops limit) (hless : s.creating.length < loops)
    (kind : HandlerKind) (remote_addr : Option SocketAddr) :
    ({ s with creating := s.creating ++ [(kind, ask_limiter s.limiter remote_addr)] } :
      SharedLimiter).Counts loops limit where
  max := h.max
  busy := by
    rw [List.length_append]
    exact hless
  live := h.live
  positive := h.positive
  bounded := by
    intro hpos ip
    have hbounded := h.bounded hpos ip
    unfold admitted at hbounded ⊢
    dsimp only
    rw [List.countP_append, List.countP_singleton]
    split_ifs with hcounted
    · have hcheck := (check_iff s.limiter ip).mp (counted_ask_limiter hcounted)
      rw [h.max, h.live] at hcheck
      have hothers := List.countP_le_length (p := counted ip) (l := s.creating)
      have hroom := hcheck hpos
      omega
    · exact hbounded

theorem Counts.connect (h : s.Counts loops limit) {i : Nat} {kind : HandlerKind}
    {connection : Connection} (hentry : s.creating[i]? = some (kind, connection)) :
    (⟨count_in connection s.limiter, s.creating.eraseIdx i, s.live ++ [(kind, connection)]⟩ :
      SharedLimiter).Counts loops limit where
  max := (count_in_max connection s.limiter).trans h.max
  busy := (List.length_eraseIdx_le ..).trans h.busy
  live := by
    intro ip
    rw [count_count_in kind, h.live, List.countP_append, List.countP_singleton]
  positive := count_in_positive h.positive connection
  bounded := by
    intro hpos ip
    have hbounded := h.bounded hpos ip
    unfold admitted at hbounded ⊢
    dsimp only
    rw [countP_eraseIdx (counted ip) hentry] at hbounded
    rw [List.countP_append, List.countP_singleton]
    omega

theorem Counts.drop (h : s.Counts loops limit) {i : Nat} {kind : HandlerKind}
    {connection : Connection} (hentry : s.live[i]? = some (kind, connection)) :
    ({ s with limiter := count_out connection s.limiter, live := s.live.eraseIdx i } :
      SharedLimiter).Counts loops limit where
  max := (count_out_max connection s.limiter).trans h.max
  busy := h.busy
  live := by
    intro ip
    rw [count_count_out kind, h.live, countP_eraseIdx (counted ip) hentry, Nat.add_sub_cancel]
  positive := count_out_positive h.positive connection
  bounded := by
    intro hpos ip
    have hbounded := h.bounded hpos ip
    unfold admitted at hbounded ⊢
    dsimp only
    rw [countP_eraseIdx (counted ip) hentry] at hbounded
    omega

theorem Counts.step {i : SharedLimiterStep} (h : s.Counts loops limit)
    (hstep : s.step loops i = some s') : s'.Counts loops limit := by
  cases i with
  | check kind remote_addr =>
    obtain ⟨hless, hstep⟩ := Option.ite_none_right_eq_some.mp hstep
    cases hstep
    rw [hooks_eq]
    exact h.check hless kind remote_addr
  | connect i =>
    obtain ⟨⟨kind, connection⟩, hentry, rfl⟩ := Option.map_eq_some_iff.mp hstep
    rw [hooks_eq]
    exact h.connect hentry
  | drop i =>
    obtain ⟨⟨kind, connection⟩, hentry, rfl⟩ := Option.map_eq_some_iff.mp hstep
    rw [hooks_eq]
    exact h.drop hentry

/-! ## The worst that can happen -/

/-- Of the address, so many handlers that were let in are in creation, and so many are counted. -/
structure Crowd (limit : Nat) (addr : SocketAddr) (creating count : Nat) (s : SharedLimiter) :
    Prop where
  max : s.limiter.max_per_ip = limit
  creating : s.creating = List.replicate creating (.ServerHandler, ⟨some addr, true⟩)
  count : s.limiter.count addr.ip = count

variable {addr : SocketAddr} {creating count : Nat}

theorem Crowd.check (h : Crowd limit addr creating count s) (hless : creating < loops)
    (hroom : count < limit) :
    ∃ s', s.step loops (.check .ServerHandler (some addr)) = some s' ∧
      Crowd limit addr (creating + 1) count s' := by
  have hlength : s.creating.length < loops := by
    rw [h.creating, List.length_replicate]
    exact hless
  have hallowed : s.limiter.check addr.ip = true := by
    rw [check_iff, h.max, h.count]
    exact fun _ => hroom
  refine ⟨_, if_pos hlength, h.max, ?_, h.count⟩
  rw [List.replicate_succ', ← h.creating, ← hallowed]
  rfl

theorem Crowd.connect (h : Crowd limit addr (creating + 1) count s) :
    ∃ s', s.step loops (.connect 0) = some s' ∧ Crowd limit addr creating (count + 1) s' := by
  let entry : HandlerKind × Connection := (.ServerHandler, ⟨some addr, true⟩)
  refine ⟨⟨s.limiter.on_connect addr.ip, List.replicate creating entry, s.live ++ [entry]⟩, ?_,
    h.max, rfl, ?_⟩
  · simp only [SharedLimiter.step, h.creating, List.replicate_succ]
    rfl
  · rw [count_on_connect, if_pos rfl, h.count]

theorem Crowd.fill (hloops : 0 < loops) (h : Crowd limit addr 0 0 s) (hcount : count ≤ limit) :
    ∃ s', Reaches (step loops) s s' ∧ Crowd limit addr 0 count s' := by
  induction count with
  | zero => exact ⟨s, ⟨[], rfl⟩, h⟩
  | succ count ih =>
    obtain ⟨t, hreaches, ht⟩ := ih (Nat.le_of_succ_le hcount)
    obtain ⟨u, hcheck, hu⟩ := ht.check hloops hcount
    obtain ⟨v, hconnect, hv⟩ := hu.connect
    exact ⟨v, (hreaches.trans (.single hcheck)).trans (.single hconnect), hv⟩

theorem Crowd.ask (h : Crowd limit addr 0 count s) (hroom : count < limit)
    (hcreating : creating ≤ loops) :
    ∃ s', Reaches (step loops) s s' ∧ Crowd limit addr creating count s' := by
  induction creating with
  | zero => exact ⟨s, ⟨[], rfl⟩, h⟩
  | succ creating ih =>
    obtain ⟨t, hreaches, ht⟩ := ih (Nat.le_of_succ_le hcreating)
    obtain ⟨u, hcheck, hu⟩ := ht.check hcreating hroom
    exact ⟨u, hreaches.trans (.single hcheck), hu⟩

theorem Crowd.enter (h : Crowd limit addr creating count s) :
    ∃ s', Reaches (step loops) s s' ∧ Crowd limit addr 0 (count + creating) s' := by
  induction creating generalizing s count with
  | zero => exact ⟨s, ⟨[], rfl⟩, h⟩
  | succ creating ih =>
    obtain ⟨t, hconnect, ht⟩ := h.connect
    obtain ⟨u, hreaches, hu⟩ := ih ht
    rw [Nat.add_right_comm] at hu
    exact ⟨u, (Reaches.single hconnect).trans hreaches, hu⟩

/-- **A limiter for several loops** lets in one more than its limit for each loop but the first. -/
theorem shared_limiter (limit loops : Nat) :
    (∀ steps s, run (step loops) (new limit) steps = some s →
      (∀ ip, s.limiter.count ip = s.live.countP (counted ip)) ∧
      (∀ ip, s.limiter.active.lookup ip ≠ some 0) ∧
      (0 < limit → ∀ ip, s.limiter.count ip ≤ limit + (loops - 1))) ∧
    (0 < limit → 0 < loops → ∀ addr : SocketAddr, ∃ s, Reaches (step loops) (new limit) s ∧
      s.limiter.count addr.ip = limit + (loops - 1)) := by
  constructor
  · intro steps s hrun
    have h : s.Counts loops limit :=
      run_keeps (fun _ _ _ h hstep => h.step hstep) (counts_new loops limit) hrun
    refine ⟨h.live, h.positive, fun hpos ip => ?_⟩
    have hbounded := h.bounded hpos ip
    have hlive := h.live ip
    unfold admitted at hbounded
    omega
  · intro hpos hloops addr
    have hnew : Crowd limit addr 0 0 (new limit) := ⟨rfl, rfl, rfl⟩
    obtain ⟨t, hfill, ht⟩ := hnew.fill hloops (Nat.sub_le limit 1)
    obtain ⟨u, hask, hu⟩ := ht.ask (Nat.sub_lt hpos Nat.one_pos) (Nat.le_refl loops)
    obtain ⟨v, henter, hv⟩ := hu.enter
    refine ⟨v, (hfill.trans hask).trans henter, hv.count.trans ?_⟩
    omega

end Alknet.SharedLimiter
