import Mathlib.Order.Basic
import Mathlib.Tactic.Common

/-!
# The first match decides

A list of items and a default decide by the label of the first item that takes the request. A list
acts on the defaults, and appending lists composes what they do.
-/

namespace Alknet.Lib

variable {α ρ δ : Type}

def pick (takes : ρ → Bool) (label : ρ → δ) (default : δ) : List ρ → δ
  | [] => default
  | x :: xs => if takes x then label x else pick takes label default xs

section

variable {takes : ρ → Bool} {label : ρ → δ} {d d' : δ} {x y : ρ} {l : List ρ}

theorem pick_cons_pos (h : takes x = true) : pick takes label d (x :: l) = label x := if_pos h

theorem pick_cons_neg (h : takes x = false) :
    pick takes label d (x :: l) = pick takes label d l := by
  simp [pick, h]

theorem pick_append (l m : List ρ) :
    pick takes label d (l ++ m) = pick takes label (pick takes label d m) l := by
  induction l with
  | nil => rfl
  | cons x l ih =>
    cases h : takes x with
    | true => rw [List.cons_append, pick_cons_pos h, pick_cons_pos h]
    | false => rw [List.cons_append, pick_cons_neg h, pick_cons_neg h, ih]

theorem pick_mono [Preorder δ] (h : d ≤ d') (l : List ρ) :
    pick takes label d l ≤ pick takes label d' l := by
  induction l with
  | nil => exact h
  | cons x l ih =>
    cases hx : takes x with
    | true => rw [pick_cons_pos hx, pick_cons_pos hx]
    | false => rwa [pick_cons_neg hx, pick_cons_neg hx]

variable (takes) in
theorem pick_insert_le [Preorder δ] (hx : ∀ d, label x ≤ d) (l m : List ρ) :
    pick takes label d (l ++ x :: m) ≤ pick takes label d (l ++ m) := by
  rw [pick_append, pick_append]
  refine pick_mono ?_ l
  cases h : takes x with
  | true => rw [pick_cons_pos h]; exact hx _
  | false => rw [pick_cons_neg h]

variable (takes) in
theorem le_pick_insert [Preorder δ] (hx : ∀ d, d ≤ label x) (l m : List ρ) :
    pick takes label d (l ++ m) ≤ pick takes label d (l ++ x :: m) := by
  rw [pick_append, pick_append]
  refine pick_mono ?_ l
  cases h : takes x with
  | true => rw [pick_cons_pos h]; exact hx _
  | false => rw [pick_cons_neg h]

theorem pick_swap (h : takes x = true → takes y = true → label x = label y) (l m : List ρ) :
    pick takes label d (l ++ x :: y :: m) = pick takes label d (l ++ y :: x :: m) := by
  rw [pick_append, pick_append]
  congr 1
  cases hx : takes x with
  | true =>
    cases hy : takes y with
    | true => rw [pick_cons_pos hx, pick_cons_pos hy, h hx hy]
    | false => rw [pick_cons_pos hx, pick_cons_neg hy, pick_cons_pos hx]
  | false =>
    cases hy : takes y with
    | true => rw [pick_cons_neg hx, pick_cons_pos hy, pick_cons_pos hy]
    | false => rw [pick_cons_neg hx, pick_cons_neg hy, pick_cons_neg hy, pick_cons_neg hx]

theorem pick_behind (hx : takes x = true) (l m m' : List ρ) :
    pick takes label d (l ++ x :: m) = pick takes label d (l ++ x :: m') := by
  rw [pick_append, pick_append, pick_cons_pos hx, pick_cons_pos hx]

theorem pick_const (h : ∀ x ∈ l, label x = d) : pick takes label d l = d := by
  induction l with
  | nil => rfl
  | cons x l ih =>
    cases hx : takes x with
    | true => rw [pick_cons_pos hx, h x List.mem_cons_self]
    | false => rw [pick_cons_neg hx, ih fun y hy => h y (List.mem_cons_of_mem x hy)]

end

/-! ## The first item with a property -/

def IsFirst (p : ρ → Prop) (l : List ρ) (x : ρ) : Prop :=
  ∃ before after, l = before ++ x :: after ∧ (∀ y ∈ before, ¬ p y) ∧ p x

section

variable {p : ρ → Prop} {x y : ρ} {l : List ρ}

theorem isFirst_cons : IsFirst p (y :: l) x ↔ (p y ∧ x = y) ∨ (¬ p y ∧ IsFirst p l x) := by
  constructor
  · rintro ⟨before, after, hl, hbefore, hx⟩
    cases before with
    | nil =>
      obtain ⟨rfl, -⟩ := List.cons.inj hl
      exact .inl ⟨hx, rfl⟩
    | cons z before =>
      obtain ⟨rfl, rfl⟩ := List.cons.inj hl
      obtain ⟨hy, hbefore⟩ := List.forall_mem_cons.mp hbefore
      exact .inr ⟨hy, before, after, rfl, hbefore, hx⟩
  · rintro (⟨hy, rfl⟩ | ⟨hy, before, after, rfl, hbefore, hx⟩)
    · exact ⟨[], l, rfl, by simp, hy⟩
    · exact ⟨y :: before, after, rfl, List.forall_mem_cons.mpr ⟨hy, hbefore⟩, hx⟩

theorem IsFirst.mem (h : IsFirst p l x) : x ∈ l := by
  obtain ⟨before, after, rfl, -, -⟩ := h
  simp

theorem IsFirst.holds (h : IsFirst p l x) : p x := by
  obtain ⟨-, -, -, -, hx⟩ := h
  exact hx

theorem IsFirst.unique (hx : IsFirst p l x) (hy : IsFirst p l y) : x = y := by
  induction l with
  | nil => simpa using hx.mem
  | cons z l ih =>
    rcases isFirst_cons.mp hx with ⟨hz, rfl⟩ | ⟨hz, hx⟩ <;>
      rcases isFirst_cons.mp hy with ⟨hz', rfl⟩ | ⟨hz', hy⟩
    · rfl
    · exact absurd hz hz'
    · exact absurd hz' hz
    · exact ih hx hy

theorem exists_isFirst (h : ∃ x ∈ l, p x) : ∃ x, IsFirst p l x := by
  induction l with
  | nil =>
    obtain ⟨x, hmem, -⟩ := h
    cases hmem
  | cons y l ih =>
    by_cases hy : p y
    · exact ⟨y, isFirst_cons.mpr (.inl ⟨hy, rfl⟩)⟩
    · obtain ⟨x, hmem, hx⟩ := h
      have hmem' : x ∈ l := (List.mem_cons.mp hmem).resolve_left fun heq => hy (heq ▸ hx)
      obtain ⟨first, hfirst⟩ := ih ⟨x, hmem', hx⟩
      exact ⟨first, isFirst_cons.mpr (.inr ⟨hy, hfirst⟩)⟩

theorem find?_eq_some_iff_isFirst [DecidablePred p] :
    l.find? (fun y => decide (p y)) = some x ↔ IsFirst p l x := by
  rw [List.find?_eq_some_iff_append]
  simp only [decide_eq_true_eq, Bool.not_eq_true', decide_eq_false_iff_not]
  constructor
  · rintro ⟨hx, before, after, hl, hbefore⟩
    exact ⟨before, after, hl, hbefore, hx⟩
  · rintro ⟨before, after, hl, hbefore, hx⟩
    exact ⟨hx, before, after, hl, hbefore⟩

end

/-! ## Two ways to take an item -/

/-- Each text on which the two differ is behind one that both take. -/
def Shadowed (p q : α → Bool) (texts : List α) : Prop :=
  ∀ before x after, texts = before ++ x :: after → p x ≠ q x →
    ∃ e ∈ before, p e = true ∧ q e = true

section

variable {p q : α → Bool} {x : α} {texts : List α}

theorem shadowed_cons : Shadowed p q (x :: texts) ↔
    p x = q x ∧ (p x = false → Shadowed p q texts) := by
  constructor
  · intro h
    have hx : p x = q x := by
      by_contra hne
      obtain ⟨e, he, -⟩ := h [] x texts rfl hne
      cases he
    refine ⟨hx, fun hfalse before y after htexts hne => ?_⟩
    obtain ⟨e, he, hboth⟩ := h (x :: before) y after (by rw [htexts]; rfl) hne
    rcases List.mem_cons.mp he with rfl | he
    · simp [hfalse] at hboth
    · exact ⟨e, he, hboth⟩
  · rintro ⟨hx, htail⟩ before y after htexts hne
    cases before with
    | nil =>
      obtain ⟨rfl, -⟩ := List.cons.inj htexts
      exact absurd hx hne
    | cons z before =>
      obtain ⟨rfl, hrest⟩ := List.cons.inj htexts
      cases hp : p x with
      | true => exact ⟨x, List.mem_cons_self, hp, hx ▸ hp⟩
      | false =>
        obtain ⟨e, he, hboth⟩ := htail hp before y after hrest hne
        exact ⟨e, List.mem_cons_of_mem x he, hboth⟩

variable {text : ρ → α} {label : ρ → δ} {a b : δ}

theorem pick_eq_of_shadowed (h : Shadowed p q texts) (d : δ) {items : List ρ}
    (hitems : items.map text = texts) :
    pick (fun r => p (text r)) label d items = pick (fun r => q (text r)) label d items := by
  induction items generalizing texts with
  | nil => rfl
  | cons r items ih =>
    subst hitems
    obtain ⟨hsame, htail⟩ := shadowed_cons.mp h
    cases hp : p (text r) with
    | true =>
      have hq : q (text r) = true := hsame ▸ hp
      exact (pick_cons_pos (x := r) hp).trans (pick_cons_pos (x := r) hq).symm
    | false =>
      have hq : q (text r) = false := hsame ▸ hp
      calc pick (fun r => p (text r)) label d (r :: items)
          = pick (fun r => p (text r)) label d items := pick_cons_neg (x := r) hp
        _ = pick (fun r => q (text r)) label d items := ih (htail hp) rfl
        _ = pick (fun r => q (text r)) label d (r :: items) := (pick_cons_neg (x := r) hq).symm

theorem pick_agree_iff (text : ρ → α) (label : ρ → δ) (make : α → δ → ρ)
    (htext : ∀ x d, text (make x d) = x) (hlabel : ∀ x d, label (make x d) = d) (hab : a ≠ b)
    (texts : List α) :
    (∀ d (items : List ρ), items.map text = texts →
      pick (fun r => p (text r)) label d items = pick (fun r => q (text r)) label d items) ↔
    Shadowed p q texts := by
  refine ⟨fun h => ?_, fun h d items hitems => pick_eq_of_shadowed h d hitems⟩
  induction texts with
  | nil =>
    intro before x after hsplit
    simp at hsplit
  | cons x texts ih =>
    -- all labels behind `x` are `b`, and the label of `x` is not
    have hx : p x = q x := by
      have hitems : (make x a :: texts.map (make · b)).map text = x :: texts := by
        simp [htext, Function.comp_def]
      have hrest : ∀ r ∈ texts.map (make · b), label r = b := by
        intro r hr
        obtain ⟨y, -, rfl⟩ := List.mem_map.mp hr
        exact hlabel y b
      have heq := h b _ hitems
      cases hp : p x <;> cases hq : q x
      · rfl
      · rw [pick_cons_neg (by rwa [htext]), pick_cons_pos (by rwa [htext]), pick_const hrest,
          hlabel] at heq
        exact absurd heq.symm hab
      · rw [pick_cons_pos (by rwa [htext]), pick_cons_neg (by rwa [htext]), pick_const hrest,
          hlabel] at heq
        exact absurd heq hab
      · rfl
    refine shadowed_cons.mpr ⟨hx, fun hp => ih fun d items hitems => ?_⟩
    have hq : q x = false := hx ▸ hp
    have heq := h d (make x a :: items) (by simp [htext, hitems])
    rwa [pick_cons_neg (by rwa [htext]), pick_cons_neg (by rwa [htext])] at heq

end

end Alknet.Lib
