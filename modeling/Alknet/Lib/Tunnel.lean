import Alknet.Lib.Duplex

/-!
# What two programs leave of the stream between them

When its program has ended well, a side may send and receive items of its own. The other program
may still be running then. If some run of the two programs ends with nothing left to read, then
neither program ever takes an item that was sent after the other one had ended, and all of these
items arrive in order.
-/

namespace Alknet.Lib

variable {β κ ρ : Type} {α : Side → Type}

/-- `sent` and `got` are the items that a side has sent and received since its program ended. -/
structure Tunnel (β κ ρ : Type) (α : Side → Type) where
  duplex : Duplex β κ ρ α
  sent : Side → List β
  got : Side → List β

inductive TunnelStep (β : Type) where
  | proc (side : Side)
  | send (side : Side) (item : β)
  | receive (side : Side)

/-- The side's program has ended well. -/
def Duplex.is_open (opened : ∀ side, α side → Bool) (s : Duplex β κ ρ α) (side : Side) : Bool :=
  match (s.party side).proc with
  | .done result => opened side result
  | _ => false

namespace Tunnel

def start (duplex : Duplex β κ ρ α) : Tunnel β κ ρ α := ⟨duplex, fun _ => [], fun _ => []⟩

def step (answer : κ → ρ) (opened : ∀ side, α side → Bool) (s : Tunnel β κ ρ α) :
    TunnelStep β → Option (Tunnel β κ ρ α)
  | .proc side => (s.duplex.step answer side).map fun duplex => { s with duplex := duplex }
  | .send side item =>
    if s.duplex.is_open opened side then
      some { s with
        duplex := s.duplex.put side (s.duplex.party side) (s.duplex.inbox side) [item]
        sent := Function.update s.sent side (s.sent side ++ [item]) }
    else none
  | .receive side =>
    if s.duplex.is_open opened side then
      match s.duplex.inbox side with
      | [] => none
      | item :: rest =>
        some { s with
          duplex := s.duplex.put side (s.duplex.party side) rest []
          got := Function.update s.got side (s.got side ++ [item]) }
    else none

end Tunnel

/-! ## Programs that complete -/

section

variable {answer : κ → ρ} {opened : ∀ side, α side → Bool} {c t : Duplex β κ ρ α}

/-- The run has come to its end: both programs ended well and nothing is left to read. -/
structure Duplex.Complete (opened : ∀ side, α side → Bool) (t : Duplex β κ ρ α) : Prop where
  is_open : ∀ side, t.is_open opened side = true
  empty : ∀ side, t.inbox side = []
  alive : ∀ side, (t.party side).shut = false

theorem Duplex.done_of_open {side : Side} (h : c.is_open opened side = true) :
    ∃ result, (c.party side).proc = .done result := by
  unfold Duplex.is_open at h
  split at h
  · rename_i result hproc
    exact ⟨result, hproc⟩
  · cases h

theorem Duplex.step_of_done {side : Side} {result : α side}
    (h : (c.party side).proc = .done result) : c.step answer side = none := by
  simp [Duplex.step, Party.step, h]

theorem Duplex.done_run {side : Side} {result : α side} {schedule : List Side}
    (hrun : run (Duplex.step answer) c schedule = some t)
    (hdone : (c.party side).proc = .done result) :
    t.party side = c.party side ∧ c.inbox side <+: t.inbox side := by
  induction schedule generalizing c with
  | nil => rw [Option.some.inj hrun]; exact ⟨rfl, List.prefix_rfl⟩
  | cons i schedule ih =>
    obtain ⟨d, hstep, hrest⟩ := Option.bind_eq_some_iff.mp hrun
    have hne : side ≠ i := by
      rintro rfl
      simp [step_of_done hdone] at hstep
    obtain ⟨party, rest, sent, -, rfl⟩ := Duplex.step_some.mp hstep
    have hparty := Duplex.put_party_ne c hne party rest sent
    obtain ⟨hsame, hprefix⟩ := ih hrest (hparty.symm ▸ hdone)
    rw [Duplex.put_inbox_ne c hne] at hprefix
    exact ⟨hsame.trans hparty, (List.prefix_append ..).trans hprefix⟩

theorem Duplex.of_open (hcomplete : t.Complete opened) {schedule : List Side}
    (hrun : run (Duplex.step answer) c schedule = some t) {side : Side}
    (h : c.is_open opened side = true) : c.inbox side = [] ∧ (c.party side).shut = false := by
  obtain ⟨result, hdone⟩ := Duplex.done_of_open h
  obtain ⟨hsame, hprefix⟩ := Duplex.done_run hrun hdone
  rw [hcomplete.empty side] at hprefix
  exact ⟨List.prefix_nil.mp hprefix, hsame ▸ hcomplete.alive side⟩

theorem Duplex.step_of_other_open (hcomplete : t.Complete opened) {schedule : List Side}
    (hrun : run (Duplex.step answer) c schedule = some t) {side : Side}
    (h : c.is_open opened side.other = true) :
    (∃ result, (c.party side).proc = .done result) ∨ ∃ d, c.step answer side = some d := by
  obtain ⟨result, hdone⟩ := Duplex.done_of_open h
  cases schedule with
  | nil =>
    rw [Option.some.inj hrun]
    exact .inl (Duplex.done_of_open (hcomplete.is_open side))
  | cons i schedule =>
    obtain ⟨d, hstep, -⟩ := Option.bind_eq_some_iff.mp hrun
    have hne : i ≠ side.other := by
      rintro rfl
      simp [step_of_done hdone] at hstep
    obtain rfl : side = i := by
      rw [← Side.other_other i, ← Side.other_of_ne hne, Side.other_other]
    exact .inr ⟨d, hstep⟩

/-! ## The items behind the programs -/

/-- The two sides are as in `c`, a state of the two programs alone. Behind what the programs have
sent wait the items `extra`, and only a program that has ended well has any behind it. -/
structure Tunnel.Carries (answer : κ → ρ) (opened : ∀ side, α side → Bool) (t c : Duplex β κ ρ α)
    (extra : Side → List β) (s : Tunnel β κ ρ α) : Prop where
  completes : Reaches (Duplex.step answer) c t
  party : s.duplex.party = c.party
  inbox : ∀ side, s.duplex.inbox side = c.inbox side ++ extra side
  pending : ∀ side, s.sent side.other = s.got side ++ extra side
  behind : ∀ side, extra side ≠ [] → c.is_open opened side.other = true

namespace Tunnel

variable {s s' : Tunnel β κ ρ α} {extra : Side → List β}

theorem carries_is_open (h : Carries answer opened t c extra s) (side : Side) :
    s.duplex.is_open opened side = c.is_open opened side := by
  unfold Duplex.is_open
  rw [h.party]

theorem carries_step (hcomplete : t.Complete opened) (h : Carries answer opened t c extra s)
    {side : Side} {duplex : Duplex β κ ρ α} (hstep : s.duplex.step answer side = some duplex) :
    ∃ d, c.step answer side = some d := by
  obtain ⟨party, rest, sent, hparty, -⟩ := Duplex.step_some.mp hstep
  rw [h.party, h.inbox] at hparty
  by_cases hextra : extra side = []
  · rw [hextra, List.append_nil] at hparty
    exact ⟨_, Duplex.step_some.mpr ⟨party, rest, sent, hparty, rfl⟩⟩
  · obtain ⟨schedule, hrun⟩ := h.completes
    rcases Duplex.step_of_other_open hcomplete hrun (h.behind side hextra) with ⟨result, hdone⟩ | hd
    · simp [Party.step, hdone] at hparty
    · exact hd

theorem carries_proc (hcomplete : t.Complete opened) (h : Carries answer opened t c extra s)
    {side : Side} {duplex : Duplex β κ ρ α} (hstep : s.duplex.step answer side = some duplex) :
    ∃ d, Carries answer opened t d extra { s with duplex := duplex } := by
  obtain ⟨d, hd⟩ := carries_step hcomplete h hstep
  obtain ⟨schedule, hrun⟩ := h.completes
  have hlast : ∀ i, t.step answer i = none := fun i =>
    let ⟨_, hdone⟩ := Duplex.done_of_open (hcomplete.is_open i)
    Duplex.step_of_done hdone
  obtain ⟨rest_schedule, hrest, -⟩ := step_descends Duplex.step_commutes hlast hrun hd
  -- nothing waits for the other side, as this one is still running
  have hother : extra side.other = [] := by
    by_contra hne
    have hopen := h.behind side.other hne
    rw [Side.other_other] at hopen
    obtain ⟨result, hdone⟩ := Duplex.done_of_open hopen
    simp [Duplex.step_of_done hdone] at hd
  obtain ⟨party, rest, sent, hparty, rfl⟩ := Duplex.step_some.mp hd
  obtain rfl : s.duplex.put side party (rest ++ extra side) sent = duplex := by
    refine Option.some.inj (Eq.trans (Eq.symm ?_) hstep)
    refine Duplex.step_some.mpr ⟨party, rest ++ extra side, sent, ?_, rfl⟩
    rw [h.party, h.inbox]
    refine Party.step_extend hparty (fun hshut => ?_) id
    by_contra hne
    simp [(Duplex.of_open hcomplete hrun (h.behind side hne)).2] at hshut
  refine ⟨_, ⟨rest_schedule, hrest⟩, ?_, fun other => ?_, h.pending, fun other hne => ?_⟩
  · exact congrArg (Function.update · side party) h.party
  · by_cases heq : other = side
    · subst heq
      rw [Duplex.put_inbox, Duplex.put_inbox]
    · have hnone : extra other = [] := Side.other_of_ne (Ne.symm heq) ▸ hother
      simp only [Duplex.put_inbox_ne _ heq, h.inbox, hnone, List.append_nil]
  · have heq : other = side := by
      by_contra hne'
      exact hne (Side.other_of_ne (Ne.symm hne') ▸ hother)
    subst heq
    unfold Duplex.is_open
    rw [Duplex.put_party_ne c (Side.other_ne other)]
    exact h.behind other hne

theorem carries_send (h : Carries answer opened t c extra s) {side : Side} {item : β}
    (hopen : c.is_open opened side = true) :
    Carries answer opened t c (Function.update extra side.other (extra side.other ++ [item]))
      { s with
        duplex := s.duplex.put side (s.duplex.party side) (s.duplex.inbox side) [item]
        sent := Function.update s.sent side (s.sent side ++ [item]) } := by
  refine ⟨h.completes, ?_, fun other => ?_, fun other => ?_, fun other hne => ?_⟩
  · exact (Function.update_eq_self side s.duplex.party).trans h.party
  · by_cases heq : other = side
    · subst heq
      rw [Duplex.put_inbox, Function.update_of_ne (Side.other_ne other).symm]
      exact h.inbox other
    · obtain rfl := Side.other_of_ne (Ne.symm heq)
      rw [Duplex.put_inbox_ne _ heq, Function.update_self, h.inbox, List.append_assoc]
  · by_cases heq : other = side
    · subst heq
      dsimp only
      rw [Function.update_of_ne (Side.other_ne other), h.pending,
        Function.update_of_ne (Side.other_ne other).symm]
    · obtain rfl := Side.other_of_ne (Ne.symm heq)
      have hpending := h.pending side.other
      rw [Side.other_other] at hpending ⊢
      dsimp only
      rw [Function.update_self, Function.update_self, hpending, List.append_assoc]
  · by_cases heq : other = side
    · subst heq
      rw [Function.update_of_ne (Side.other_ne other).symm] at hne
      exact h.behind other hne
    · obtain rfl := Side.other_of_ne (Ne.symm heq)
      rw [Side.other_other]
      exact hopen

theorem carries_receive (hcomplete : t.Complete opened) (h : Carries answer opened t c extra s)
    {side : Side} (hopen : c.is_open opened side = true) {item : β} {rest : List β}
    (hinbox : s.duplex.inbox side = item :: rest) :
    Carries answer opened t c (Function.update extra side rest)
      { s with
        duplex := s.duplex.put side (s.duplex.party side) rest []
        got := Function.update s.got side (s.got side ++ [item]) } := by
  obtain ⟨schedule, hrun⟩ := h.completes
  have hempty := (Duplex.of_open hcomplete hrun hopen).1
  have hextra : extra side = item :: rest := by
    rw [← hinbox, h.inbox, hempty, List.nil_append]
  refine ⟨h.completes, ?_, fun other => ?_, fun other => ?_, fun other hne => ?_⟩
  · exact (Function.update_eq_self side s.duplex.party).trans h.party
  · by_cases heq : other = side
    · subst heq
      rw [Duplex.put_inbox, Function.update_self, hempty, List.nil_append]
    · rw [Duplex.put_inbox_ne _ heq, Function.update_of_ne heq, h.inbox, List.append_nil]
  · by_cases heq : other = side
    · subst heq
      dsimp only
      rw [Function.update_self, Function.update_self, h.pending, hextra, List.append_assoc]
      rfl
    · dsimp only
      rw [Function.update_of_ne heq, Function.update_of_ne heq, h.pending]
  · by_cases heq : other = side
    · subst heq
      exact h.behind other (by simp [hextra])
    · rw [Function.update_of_ne heq] at hne
      exact h.behind other hne

theorem carries_tunnel_step (hcomplete : t.Complete opened) {i : TunnelStep β}
    (h : ∃ c extra, Carries answer opened t c extra s) (hstep : s.step answer opened i = some s') :
    ∃ c extra, Carries answer opened t c extra s' := by
  obtain ⟨c, extra, h⟩ := h
  cases i with
  | proc side =>
    obtain ⟨duplex, hduplex, rfl⟩ := Option.map_eq_some_iff.mp hstep
    obtain ⟨d, hd⟩ := carries_proc hcomplete h hduplex
    exact ⟨d, extra, hd⟩
  | send side item =>
    obtain ⟨hopen, rfl⟩ := by simpa [step] using hstep
    exact ⟨c, _, carries_send h (carries_is_open h side ▸ hopen)⟩
  | receive side =>
    simp only [step] at hstep
    split at hstep
    · rename_i hopen
      split at hstep
      · cases hstep
      · rename_i item rest hinbox
        obtain rfl := Option.some.inj hstep
        exact ⟨c, _, carries_receive hcomplete h (carries_is_open h side ▸ hopen) hinbox⟩
    · cases hstep

theorem carries_run (hcomplete : t.Complete opened) {start : Duplex β κ ρ α}
    (hrun : Reaches (Duplex.step answer) start t) {steps : List (TunnelStep β)}
    (hsteps : run (step answer opened) (Tunnel.start start) steps = some s) :
    ∃ c extra, Carries answer opened t c extra s := by
  refine run_keeps (fun _ _ _ => carries_tunnel_step hcomplete) ?_ hsteps
  exact ⟨start, fun _ => [], hrun, rfl, fun _ => (List.append_nil _).symm,
    fun _ => rfl, fun _ hne => absurd rfl hne⟩

/-- **The tunnel.** What a side has received is what the other one sent, up to what still waits. -/
theorem exact_run (hcomplete : t.Complete opened) {start : Duplex β κ ρ α}
    (hrun : Reaches (Duplex.step answer) start t) {steps : List (TunnelStep β)}
    (hsteps : run (step answer opened) (Tunnel.start start) steps = some s) (side : Side) :
    s.got side <+: s.sent side.other ∧
      (s.duplex.is_open opened side = true →
        s.sent side.other = s.got side ++ s.duplex.inbox side) := by
  obtain ⟨c, extra, h⟩ := carries_run hcomplete hrun hsteps
  refine ⟨h.pending side ▸ List.prefix_append .., fun hopen => ?_⟩
  obtain ⟨schedule, hrest⟩ := h.completes
  rw [carries_is_open h] at hopen
  rw [h.pending, h.inbox, (Duplex.of_open hcomplete hrest hopen).1, List.nil_append]

end Tunnel

end

end Alknet.Lib
