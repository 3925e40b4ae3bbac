import Mathlib.Data.Nat.Digits.Lemmas

/-!
# Positional numerals

Digit strings, most significant digit first. A string with no leading zero is the numeral of its
value, so such a string can be rebuilt from the number that was read.
-/

namespace Alknet.Lib.Numeral

def value (b : Nat) (ds : List Nat) : Nat := ds.foldl (fun acc d => b * acc + d) 0

/-- The digits of `n`. Zero has one digit. -/
def numeral (b n : Nat) : List Nat := if n = 0 then [0] else (Nat.digits b n).reverse

/-- A string of two or more digits starts with a nonzero one. -/
def NoLeadingZero (ds : List Nat) : Prop := 1 < ds.length → ds.head? ≠ some 0

theorem value_eq_ofDigits (b : Nat) (ds : List Nat) : value b ds = Nat.ofDigits b ds.reverse := by
  rw [Nat.ofDigits_eq_foldr, List.foldr_reverse, value]
  simp only [Nat.cast_id, add_comm]

theorem value_numeral (b n : Nat) : value b (numeral b n) = n := by
  unfold numeral
  split
  · rename_i h
    simp [value, h]
  · rw [value_eq_ofDigits, List.reverse_reverse, Nat.ofDigits_digits]

theorem numeral_ne_nil (b n : Nat) : numeral b n ≠ [] := by
  unfold numeral
  split
  · simp
  · rename_i h
    simpa using Nat.digits_ne_nil_iff_ne_zero.mpr h

theorem numeral_lt {b n : Nat} (hb : 1 < b) {d : Nat} (hd : d ∈ numeral b n) : d < b := by
  unfold numeral at hd
  split at hd
  · simp only [List.mem_singleton] at hd
    omega
  · exact Nat.digits_lt_base hb (List.mem_reverse.mp hd)

theorem numeral_length_le {b n k : Nat} (hb : 1 < b) (hk : 0 < k) (hn : n < b ^ k) :
    (numeral b n).length ≤ k := by
  unfold numeral
  split
  · exact hk
  · rw [List.length_reverse]
    exact (Nat.digits_length_le_iff hb n).mpr hn

theorem numeral_noLeadingZero (b n : Nat) : NoLeadingZero (numeral b n) := by
  intro hlen
  unfold numeral at hlen ⊢
  split
  · rename_i h
    simp [h] at hlen
  · rename_i h
    rw [List.head?_reverse, List.getLast?_eq_some_getLast (Nat.digits_ne_nil_iff_ne_zero.mpr h)]
    simpa using Nat.getLast_digit_ne_zero b h

/-- **Uniqueness.** A digit string with no leading zero is the numeral of its value. -/
theorem numeral_value {b : Nat} (hb : 1 < b) {ds : List Nat} (hne : ds ≠ [])
    (hlt : ∀ d ∈ ds, d < b) (hlead : NoLeadingZero ds) : numeral b (value b ds) = ds := by
  by_cases hzero : ds.head? = some 0
  -- a leading zero is the whole string
  · obtain ⟨t, rfl⟩ : ∃ t, ds = 0 :: t := by
      cases ds with
      | nil => exact absurd rfl hne
      | cons d t => exact ⟨t, by simpa using hzero⟩
    have ht : t = [] := by
      by_contra h
      exact hlead (by simpa [List.length_pos_iff] using h) hzero
    subst ht
    simp [value, numeral]
  · have hlast : ∀ h : ds.reverse ≠ [], ds.reverse.getLast h ≠ 0 := by
      intro h h0
      rw [List.getLast_reverse] at h0
      exact hzero (by rw [List.head?_eq_some_head hne, h0])
    have hdigits : Nat.digits b (value b ds) = ds.reverse := by
      rw [value_eq_ofDigits]
      exact Nat.digits_ofDigits b hb _ (fun d hd => hlt d (List.mem_reverse.mp hd)) hlast
    have hpos : value b ds ≠ 0 := by
      intro h0
      rw [h0, Nat.digits_zero] at hdigits
      exact hne (List.reverse_eq_nil_iff.mp hdigits.symm)
    rw [numeral, if_neg hpos, hdigits, List.reverse_reverse]

end Alknet.Lib.Numeral
