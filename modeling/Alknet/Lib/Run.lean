import Mathlib.Data.List.Basic

/-!
# Runs of a partial step function

A step takes a state and an input and may have no next state. A run takes a list
of inputs and stops at the first step with no next state.
-/

namespace Alknet.Lib

section

variable {σ ι : Type} (step : σ → ι → Option σ)

def run : σ → List ι → Option σ
  | s, [] => some s
  | s, i :: is => (step s i).bind fun s' => run s' is

@[simp] theorem run_nil (s : σ) : run step s [] = some s := rfl

theorem run_cons (s : σ) (i : ι) (is : List ι) :
    run step s (i :: is) = (step s i).bind fun s' => run step s' is := rfl

theorem run_append (s : σ) (is js : List ι) :
    run step s (is ++ js) = (run step s is).bind fun s' => run step s' js := by
  induction is generalizing s with
  | nil => rfl
  | cons i is ih =>
    simp only [List.cons_append, run_cons, Option.bind_assoc]
    congr 1
    funext s'
    exact ih s'

variable {step}

theorem run_keeps_of {Inv : σ → Prop} {ok : ι → Prop}
    (hstep : ∀ s i s', ok i → Inv s → step s i = some s' → Inv s') {s s' : σ} {is : List ι}
    (hok : ∀ i ∈ is, ok i) (h0 : Inv s) (h : run step s is = some s') : Inv s' := by
  induction is generalizing s with
  | nil => simp only [run_nil, Option.some.injEq] at h; exact h ▸ h0
  | cons i is ih =>
    rw [run_cons, Option.bind_eq_some_iff] at h
    obtain ⟨t, ht, hrest⟩ := h
    rw [List.forall_mem_cons] at hok
    exact ih hok.2 (hstep s i t hok.1 h0 ht) hrest

theorem run_keeps {Inv : σ → Prop} (hstep : ∀ s i s', Inv s → step s i = some s' → Inv s')
    {s s' : σ} {is : List ι} (h0 : Inv s) (h : run step s is = some s') : Inv s' :=
  run_keeps_of (fun s i s' _ => hstep s i s') (fun _ _ => trivial) h0 h

theorem run_history {R : List ι → σ → Prop} {s : σ} (h0 : R [] s)
    (hstep : ∀ before t i t', R before t → step t i = some t' → R (before ++ [i]) t') {t : σ}
    {is : List ι} (h : run step s is = some t) : R is t := by
  induction is generalizing s R with
  | nil => exact Option.some.inj h ▸ h0
  | cons i is ih =>
    obtain ⟨u, hu, hrest⟩ := Option.bind_eq_some_iff.mp h
    exact ih (R := fun before => R (i :: before)) (hstep [] s i u h0 hu)
      (fun before t j t' => hstep (i :: before) t j t') hrest

/-- At some place of the inputs, the inputs before it and the input there are so. -/
def Happened (P : List ι → ι → Prop) (is : List ι) : Prop :=
  ∃ before i after, is = before ++ i :: after ∧ P before i

theorem Happened.snoc {P : List ι → ι → Prop} {is : List ι} (h : Happened P is) (i : ι) :
    Happened P (is ++ [i]) := by
  obtain ⟨before, j, after, rfl, hP⟩ := h
  exact ⟨before, j, after ++ [i], by simp, hP⟩

theorem happened_last {P : List ι → ι → Prop} {is : List ι} {i : ι} (h : P is i) :
    Happened P (is ++ [i]) :=
  ⟨is, i, [], rfl, h⟩

variable (step) in
/-- Some run leads from one state to the other. -/
def Reaches (s t : σ) : Prop := ∃ is, run step s is = some t

theorem Reaches.trans {s t u : σ} (h : Reaches step s t) (h' : Reaches step t u) :
    Reaches step s u := by
  obtain ⟨is, his⟩ := h
  obtain ⟨js, hjs⟩ := h'
  exact ⟨is ++ js, by rw [run_append, his, Option.bind_some, hjs]⟩

theorem Reaches.single {s t : σ} {i : ι} (h : step s i = some t) : Reaches step s t :=
  ⟨[i], by rw [run_cons, h]; rfl⟩

theorem run_of_last {s t : σ} {is : List ι} (hlast : ∀ i, step s i = none)
    (h : run step s is = some t) : s = t := by
  cases is with
  | nil => exact Option.some.inj h
  | cons i is =>
    rw [run_cons, hlast i] at h
    cases h

/-! ## Runs that commute

Where two different steps from one state can each be followed by the other, and both ways meet, all
runs that cannot go on have the same length and the same last state. -/

/-- Two different steps from one state commute. -/
def Commutes (step : σ → ι → Option σ) : Prop :=
  ∀ s i j a b, i ≠ j → step s i = some a → step s j = some b →
    ∃ t, step a j = some t ∧ step b i = some t

theorem step_descends [DecidableEq ι] (hcommutes : Commutes step) {t : σ}
    (hlast : ∀ i, step t i = none) {s s' : σ} {is : List ι} (hrun : run step s is = some t) {i : ι}
    (hstep : step s i = some s') :
    ∃ js, run step s' js = some t ∧ js.length + 1 = is.length := by
  induction is generalizing s s' with
  | nil =>
    rw [Option.some.inj hrun, hlast i] at hstep
    cases hstep
  | cons j is ih =>
    obtain ⟨u, hu, hrest⟩ := Option.bind_eq_some_iff.mp hrun
    by_cases heq : i = j
    · subst heq
      obtain rfl := Option.some.inj (hstep.symm.trans hu)
      exact ⟨is, hrest, rfl⟩
    · obtain ⟨v, hv, hv'⟩ := hcommutes s i j s' u heq hstep hu
      obtain ⟨js, hjs, hlength⟩ := ih hrest hv'
      exact ⟨j :: js, Option.bind_eq_some_iff.mpr ⟨v, hv, hjs⟩, congrArg (· + 1) hlength⟩

theorem run_descends [DecidableEq ι] (hcommutes : Commutes step) {t : σ}
    (hlast : ∀ i, step t i = none) {s s' : σ} {is js : List ι} (hrun : run step s is = some t)
    (hother : run step s js = some s') :
    ∃ ks, run step s' ks = some t ∧ ks.length + js.length = is.length := by
  induction js generalizing s is with
  | nil => exact ⟨is, Option.some.inj hother ▸ hrun, rfl⟩
  | cons j js ih =>
    obtain ⟨u, hu, hrest⟩ := Option.bind_eq_some_iff.mp hother
    obtain ⟨ks, hks, hlength⟩ := step_descends hcommutes hlast hrun hu
    obtain ⟨ls, hls, hlength'⟩ := ih hks hrest
    exact ⟨ls, hls, by rw [List.length_cons]; omega⟩

/-! ## Properties of every state and conditions on every step -/

variable (step)

/-- The property holds in each state that the run passes. -/
def Throughout (P : σ → Prop) : σ → List ι → Prop
  | s, [] => P s
  | s, i :: is => P s ∧ ∀ s', step s i = some s' → Throughout P s' is

/-- Each step that the run takes meets the condition. -/
def EachStep (Meets : σ → ι → Prop) : σ → List ι → Prop
  | _, [] => True
  | s, i :: is => ∀ s', step s i = some s' → Meets s i ∧ EachStep Meets s' is

variable {step}

theorem Throughout.first {P : σ → Prop} {s : σ} {is : List ι} (h : Throughout step P s is) :
    P s := by
  cases is with
  | nil => exact h
  | cons i is => exact h.1

theorem Throughout.last {P : σ → Prop} {s s' : σ} {is : List ι} (h : Throughout step P s is)
    (hrun : run step s is = some s') : P s' := by
  induction is generalizing s with
  | nil => exact Option.some.inj hrun ▸ h
  | cons i is ih =>
    obtain ⟨t, ht, hrest⟩ := Option.bind_eq_some_iff.mp hrun
    exact ih (h.2 t ht) hrest

theorem throughout_of_keeps {Inv P : σ → Prop}
    (hinv : ∀ s i s', Inv s → step s i = some s' → Inv s') (hP : ∀ s, Inv s → P s)
    {s : σ} (h0 : Inv s) (is : List ι) : Throughout step P s is := by
  induction is generalizing s with
  | nil => exact hP s h0
  | cons i is ih => exact ⟨hP s h0, fun s' hs' => ih (hinv s i s' h0 hs')⟩

/-- A run has `P` throughout exactly when each of its steps meets the condition. -/
theorem throughout_iff {P : σ → Prop} {Meets : σ → ι → Prop}
    (hmeets : ∀ s i s', P s → step s i = some s' → (P s' ↔ Meets s i))
    {s : σ} (hP : P s) (is : List ι) :
    Throughout step P s is ↔ EachStep step Meets s is := by
  induction is generalizing s with
  | nil => exact ⟨fun _ => trivial, fun _ => hP⟩
  | cons i is ih =>
    constructor
    · rintro ⟨-, h⟩ s' hs'
      have hP' : P s' := (h s' hs').first
      exact ⟨(hmeets s i s' hP hs').mp hP', (ih hP').mp (h s' hs')⟩
    · refine fun h => ⟨hP, fun s' hs' => ?_⟩
      obtain ⟨hm, hrest⟩ := h s' hs'
      exact (ih ((hmeets s i s' hP hs').mpr hm)).mpr hrest

theorem eachStep_cons {Meets : σ → ι → Prop} {s s' : σ} {i : ι} {is : List ι}
    (h : step s i = some s') :
    EachStep step Meets s (i :: is) ↔ Meets s i ∧ EachStep step Meets s' is := by
  constructor
  · exact fun heach => heach s' h
  · intro hboth t ht
    obtain rfl := Option.some.inj (h.symm.trans ht)
    exact hboth

theorem not_happened_nil {P : List ι → ι → Prop} : ¬ Happened P [] := by
  rintro ⟨before, i, after, heq, -⟩
  simp at heq

theorem happened_cons {P : List ι → ι → Prop} {i : ι} {is : List ι} :
    Happened P (i :: is) ↔ P [] i ∨ Happened (fun before => P (i :: before)) is := by
  constructor
  · rintro ⟨before, j, after, heq, hP⟩
    cases before with
    | nil =>
      obtain ⟨rfl, -⟩ := List.cons.inj heq
      exact .inl hP
    | cons k before =>
      obtain ⟨rfl, rfl⟩ := List.cons.inj heq
      exact .inr ⟨before, j, after, rfl, hP⟩
  · rintro (hP | ⟨before, j, after, rfl, hP⟩)
    · exact ⟨[], i, is, rfl, hP⟩
    · exact ⟨i :: before, j, after, rfl, hP⟩

theorem eachStep_iff_not_happened {R : List ι → σ → Prop} {Meets : σ → ι → Prop}
    {B : List ι → ι → Prop}
    (hstep : ∀ before t i t', R before t → step t i = some t' →
      R (before ++ [i]) t' ∧ (Meets t i ↔ ¬ B before i))
    {s t : σ} (h0 : R [] s) {is : List ι} (hrun : run step s is = some t) :
    EachStep step Meets s is ↔ ¬ Happened B is := by
  induction is generalizing s R B with
  | nil => exact iff_of_true trivial not_happened_nil
  | cons i is ih =>
    obtain ⟨u, hu, hrest⟩ := Option.bind_eq_some_iff.mp hrun
    obtain ⟨hR, hmeets⟩ := hstep [] s i u h0 hu
    have htail := ih (R := fun before => R (i :: before)) (B := fun before => B (i :: before))
      (fun before t j t' => hstep (i :: before) t j t') hR hrest
    rw [eachStep_cons hu, happened_cons, not_or, ← hmeets, ← htail]

theorem Throughout.imp {P Q : σ → Prop} (h : ∀ s, P s → Q s) {s : σ} {is : List ι}
    (hP : Throughout step P s is) : Throughout step Q s is := by
  induction is generalizing s with
  | nil => exact h s hP
  | cons i is ih => exact ⟨h s hP.1, fun s' hs' => ih (hP.2 s' hs')⟩

theorem throughout_iff_of_inv {P Inv : σ → Prop} {Meets : σ → ι → Prop}
    (hmeets : ∀ s i s', Inv s → P s → step s i = some s' → Inv s' ∧ (P s' ↔ Meets s i))
    {s : σ} (hInv : Inv s) (hP : P s) (is : List ι) :
    Throughout step P s is ↔ EachStep step Meets s is := by
  have hboth : Throughout step (fun s => Inv s ∧ P s) s is ↔ EachStep step Meets s is := by
    refine throughout_iff (fun s i s' h hstep => ?_) ⟨hInv, hP⟩ is
    obtain ⟨hInv', hiff⟩ := hmeets s i s' h.1 h.2 hstep
    rw [← hiff]
    exact and_iff_right hInv'
  rw [← hboth]
  refine ⟨fun h => ?_, Throughout.imp fun _ => And.right⟩
  clear hboth
  induction is generalizing s with
  | nil => exact ⟨hInv, hP⟩
  | cons i is ih =>
    refine ⟨⟨hInv, hP⟩, fun s' hs' => ?_⟩
    exact ih (hmeets s i s' hInv hP hs').1 (h.2 s' hs').first (h.2 s' hs')

end

/-! ## Lists of parties

Where the state has a list of parties and a step changes one of them or adds one. -/

section

variable {α : Type} {l : List α}

theorem getElem?_set_cases {i j : Nat} {a b : α} (h : (l.set i a)[j]? = some b) :
    (i = j ∧ b = a) ∨ i ≠ j ∧ l[j]? = some b := by
  by_cases hj : i = j
  · subst hj
    rw [List.getElem?_set_self'] at h
    obtain ⟨c, -, hc⟩ := Option.map_eq_some_iff.mp h
    exact .inl ⟨rfl, hc.symm⟩
  · rw [List.getElem?_set_ne hj] at h
    exact .inr ⟨hj, h⟩

theorem getElem?_snoc_cases {j : Nat} {a b : α} (h : (l ++ [a])[j]? = some b) :
    (j = l.length ∧ b = a) ∨ l[j]? = some b := by
  rcases Nat.lt_trichotomy j l.length with hlt | rfl | hgt
  · rw [List.getElem?_append_left hlt] at h
    exact .inr h
  · rw [List.getElem?_concat_length] at h
    exact .inl ⟨rfl, (Option.some.inj h).symm⟩
  · rw [List.getElem?_eq_none (by rw [List.length_append]; exact hgt)] at h
    cases h

theorem map_set_eq {β : Type} {f : α → β} {i : Nat} {a b : α} (ha : l[i]? = some a)
    (hf : f b = f a) : (l.set i b).map f = l.map f := by
  refine List.ext_getElem? fun j => ?_
  rw [List.getElem?_map, List.getElem?_map, List.getElem?_set]
  split
  · rename_i hj
    subst hj
    obtain ⟨hlt, -⟩ := List.getElem?_eq_some_iff.mp ha
    rw [if_pos hlt, ha, Option.map_some, Option.map_some, hf]
  · rfl

end

/-! ## Steps that show something

The run is known by what it shows when that depends only on the inputs before. -/

section

variable {σ ι ο : Type} (step : σ → ι → ο × Option σ)

/-- What the steps show, up to the first one with no next state. -/
def outputs : σ → List ι → List ο
  | _, [] => []
  | s, i :: is => (step s i).1 :: (step s i).2.elim [] fun s' => outputs s' is

/-- The same as a function of the inputs before. -/
def expected (spec : List ι → ο) (is : List ι) : List ο :=
  (List.range is.length).map fun j => spec (is.take j)

@[simp] theorem length_expected (spec : List ι → ο) (is : List ι) :
    (expected spec is).length = is.length := by
  rw [expected, List.length_map, List.length_range]

theorem expected_cons (spec : List ι → ο) (i : ι) (is : List ι) :
    expected spec (i :: is) = spec [] :: expected (fun before => spec (i :: before)) is := by
  unfold expected
  rw [List.length_cons, List.range_succ_eq_map, List.map_cons, List.map_map]
  rfl

variable {step}

theorem outputs_isPrefix_of {R : σ → List ι → Prop} {spec : List ι → ο} {is : List ι}
    (hout : ∀ s before i, before ++ [i] <+: is → R s before → (step s i).1 = spec before)
    (hstep : ∀ s before i s', before ++ [i] <+: is → R s before → (step s i).2 = some s' →
      R s' (before ++ [i]))
    {s : σ} (h0 : R s []) : outputs step s is <+: expected spec is := by
  induction is generalizing s R spec with
  | nil => exact List.prefix_rfl
  | cons i is ih =>
    have hfirst : [] ++ [i] <+: i :: is := List.prefix_append [i] is
    rw [expected_cons, outputs, hout s [] i hfirst h0]
    refine (List.prefix_cons_inj _).mpr ?_
    cases hnext : (step s i).2 with
    | none => exact List.nil_prefix
    | some s' =>
      -- the first input moves from the inputs to come to the inputs before
      refine ih (R := fun s before => R s (i :: before)) (fun s before j hbefore => ?_)
        (fun s before j s'' hbefore => ?_) (hstep s [] i s' hfirst h0 hnext)
      · exact hout s (i :: before) j ((List.prefix_cons_inj i).mpr hbefore)
      · exact hstep s (i :: before) j s'' ((List.prefix_cons_inj i).mpr hbefore)

theorem length_outputs_of {R : σ → List ι → Prop} {is : List ι}
    (hgo : ∀ s before i, before ++ [i] <+: is → R s before →
      ∃ s', (step s i).2 = some s' ∧ R s' (before ++ [i]))
    {s : σ} (h0 : R s []) : (outputs step s is).length = is.length := by
  induction is generalizing s R with
  | nil => rfl
  | cons i is ih =>
    obtain ⟨s', hnext, hR⟩ := hgo s [] i (List.prefix_append [i] is) h0
    rw [outputs, hnext, List.length_cons, List.length_cons]
    refine congrArg (· + 1) (ih (R := fun s before => R s (i :: before)) ?_ hR)
    exact fun s before j hbefore => hgo s (i :: before) j ((List.prefix_cons_inj i).mpr hbefore)

theorem outputs_eq_of {R : σ → List ι → Prop} {spec : List ι → ο} {is : List ι}
    (hout : ∀ s before i, before ++ [i] <+: is → R s before → (step s i).1 = spec before)
    (hgo : ∀ s before i, before ++ [i] <+: is → R s before →
      ∃ s', (step s i).2 = some s' ∧ R s' (before ++ [i]))
    {s : σ} (h0 : R s []) : outputs step s is = expected spec is := by
  refine (outputs_isPrefix_of hout (fun s before i s' hbefore hR hs' => ?_) h0).eq_of_length ?_
  · obtain ⟨t, ht, hRt⟩ := hgo s before i hbefore hR
    exact Option.some.inj (hs'.symm.trans ht) ▸ hRt
  · rw [length_outputs_of hgo h0, length_expected]

end

end Alknet.Lib
