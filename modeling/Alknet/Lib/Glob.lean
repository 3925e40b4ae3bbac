import Mathlib.Data.List.Basic
import Mathlib.Tactic.Common

/-! # Patterns with a wildcard -/

namespace Alknet.Lib

variable {α : Type} {wild : α} {p q t : List α}

/-- The target is the pattern with each `wild` replaced by some text. -/
inductive Glob (wild : α) : List α → List α → Prop where
  | nil : Glob wild [] []
  | literal {a : α} {p t : List α} (hne : a ≠ wild) (h : Glob wild p t) :
      Glob wild (a :: p) (a :: t)
  | filled {p t : List α} (filler : List α) (h : Glob wild p t) :
      Glob wild (wild :: p) (filler ++ t)

theorem glob_wild_cons : Glob wild (wild :: p) t ↔ ∃ filler rest, t = filler ++ rest ∧
    Glob wild p rest := by
  constructor
  · intro h
    cases h with
    | literal hne _ => exact absurd rfl hne
    | filled filler h => exact ⟨filler, _, rfl, h⟩
  · rintro ⟨filler, rest, rfl, h⟩
    exact .filled filler h

theorem glob_literal_append (hq : wild ∉ q) :
    Glob wild (q ++ p) t ↔ ∃ rest, t = q ++ rest ∧ Glob wild p rest := by
  induction q generalizing t with
  | nil => simp
  | cons a q ih =>
    have hne : a ≠ wild := fun h => hq (h ▸ List.mem_cons_self)
    have hrest : wild ∉ q := fun h => hq (List.mem_cons_of_mem a h)
    constructor
    · intro h
      cases h with
      | literal _ h =>
        obtain ⟨rest, rfl, hp⟩ := (ih hrest).mp h
        exact ⟨rest, rfl, hp⟩
      | filled filler h => exact absurd rfl hne
    · rintro ⟨rest, rfl, hp⟩
      exact .literal hne ((ih hrest).mpr ⟨rest, rfl, hp⟩)

theorem glob_literal (hp : wild ∉ p) : Glob wild p t ↔ t = p := by
  have happend := glob_literal_append (p := []) (t := t) hp
  rw [List.append_nil] at happend
  rw [happend]
  constructor
  · rintro ⟨rest, rfl, hrest⟩
    cases hrest
    exact List.append_nil p
  · rintro rfl
    exact ⟨[], (List.append_nil t).symm, .nil⟩

theorem glob_one_wild (hq : wild ∉ q) (hp : wild ∉ p) :
    Glob wild (q ++ wild :: p) t ↔ ∃ filler, t = q ++ (filler ++ p) := by
  rw [glob_literal_append hq]
  constructor
  · rintro ⟨rest, rfl, hrest⟩
    obtain ⟨filler, last, rfl, hlast⟩ := glob_wild_cons.mp hrest
    exact ⟨filler, by rw [(glob_literal hp).mp hlast]⟩
  · rintro ⟨filler, rfl⟩
    exact ⟨_, rfl, .filled filler ((glob_literal hp).mpr rfl)⟩

theorem glob_self [DecidableEq α] (wild : α) (p : List α) : Glob wild p p := by
  induction p with
  | nil => exact .nil
  | cons a p ih =>
    by_cases h : a = wild
    · subst h
      exact .filled [a] ih
    · exact .literal h ih

theorem glob_without_wild [DecidableEq α] (wild : α) (p : List α) :
    Glob wild p (p.filter (· ≠ wild)) := by
  induction p with
  | nil => exact .nil
  | cons a p ih =>
    by_cases h : a = wild
    · subst h
      simpa using Glob.filled [] ih
    · simpa [h] using Glob.literal h ih

theorem glob_append_self [DecidableEq α] (hq : wild ∉ q) (filler p : List α) :
    Glob wild (q ++ wild :: p) (q ++ (filler ++ p)) :=
  (glob_literal_append hq).mpr ⟨_, rfl, .filled filler (glob_self wild p)⟩

end Alknet.Lib
