import Mathlib.Data.List.Infix

/-!
# The first end mark in a list

A text up to its first end mark is the shortest beginning that has the mark in it. So whether a
beginning of a stream has the mark in it is a question of its length.
-/

namespace Alknet.Lib

variable {α : Type} {mark head head' tail tail' x : List α}

/-- The list ends with the mark, and the mark is nowhere before. -/
def EndsFirst (mark head : List α) : Prop := mark <:+ head ∧ ¬ mark <:+: head.dropLast

theorem infix_iff_of_endsFirst (h : EndsFirst mark head) (hx : x <+: head ++ tail) :
    mark <:+: x ↔ head <+: x := by
  constructor
  · intro hmark
    by_contra hnot
    -- a beginning without all of `head` is one of `head` without its last item
    have hlt : x.length < head.length := by
      by_contra hge
      exact hnot (List.prefix_of_prefix_length_le (List.prefix_append head tail) hx (by omega))
    have hdrop : x <+: head.dropLast := by
      have hdropLast : head.dropLast <+: head ++ tail :=
        (List.dropLast_prefix head).trans (List.prefix_append head tail)
      refine List.prefix_of_prefix_length_le hx hdropLast ?_
      rw [List.length_dropLast]
      omega
    exact h.2 (hmark.trans hdrop.isInfix)
  · exact fun hhead => h.1.isInfix.trans hhead.isInfix

theorem endsFirst_unique (h : EndsFirst mark head) (h' : EndsFirst mark head')
    (heq : head ++ tail = head' ++ tail') : head = head' ∧ tail = tail' := by
  have hle : head <+: head' :=
    (infix_iff_of_endsFirst h (heq ▸ List.prefix_append head' tail')).mp h'.1.isInfix
  have hge : head' <+: head :=
    (infix_iff_of_endsFirst h' (heq ▸ List.prefix_append head tail)).mp h.1.isInfix
  have hhead := hle.eq_of_length_le hge.length_le
  subst hhead
  exact ⟨rfl, List.append_cancel_left heq⟩

theorem exists_endsFirst (hne : mark ≠ []) (hmark : mark <:+: x) :
    ∃ head tail, x = head ++ tail ∧ EndsFirst mark head := by
  induction x using List.reverseRecOn with
  | nil => exact absurd (List.infix_nil.mp hmark) hne
  | append_singleton x last ih =>
    by_cases hearlier : mark <:+: x
    · obtain ⟨head, tail, rfl, hfirst⟩ := ih hearlier
      exact ⟨head, tail ++ [last], by simp, hfirst⟩
    · have hsuffix : mark <:+ x ++ [last] := by
        rcases List.infix_concat_iff.mp hmark with hsuffix | hinfix
        · exact hsuffix
        · exact absurd hinfix hearlier
      exact ⟨x ++ [last], [], by simp, hsuffix, by simpa using hearlier⟩

end Alknet.Lib
