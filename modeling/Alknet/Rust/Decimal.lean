import Alknet.Rust.NetSpec
import Alknet.Rust.Text

/-!
# Decimal numbers as text

`str::parse::<u32>` takes digits with an optional sign before them. What `Display` writes is one of
the texts that read as the number.
-/

open Alknet.Lib.Numeral

namespace Alknet.Rust

def decimal_digits (s : List Char) : List Nat := s.map fun c => c.toNat - '0'.toNat

def decimal (s : List Char) : Nat := value 10 (decimal_digits s)

/-- Nothing but digits, and at least one. -/
def IsDecimal (s : List Char) : Prop := s ≠ [] ∧ ∀ c ∈ s, c.isDigit = true

theorem parse_digits_nil (acc : Nat) : parse_digits [] acc = some acc := rfl

theorem parse_digits_cons (c : Char) (s : List Char) (acc : Nat) :
    parse_digits (c :: s) acc =
      if c.isDigit then
        if 10 * acc + (c.toNat - '0'.toNat) < 2 ^ 32 then
          parse_digits s (10 * acc + (c.toNat - '0'.toNat))
        else none
      else none := rfl

theorem le_foldl_digits (ds : List Nat) (acc : Nat) :
    acc ≤ ds.foldl (fun acc d => 10 * acc + d) acc := by
  induction ds generalizing acc with
  | nil => exact le_rfl
  | cons d ds ih => exact le_trans (by omega) (ih (10 * acc + d))

theorem parse_digits_eq_some {s : List Char} {acc n : Nat} (hacc : acc < 2 ^ 32) :
    parse_digits s acc = some n ↔
      (∀ c ∈ s, c.isDigit = true) ∧
        n = (decimal_digits s).foldl (fun acc d => 10 * acc + d) acc ∧ n < 2 ^ 32 := by
  induction s generalizing acc with
  | nil =>
    simp only [parse_digits_nil, Option.some.injEq, decimal_digits, List.map_nil, List.foldl_nil]
    constructor
    · rintro rfl
      exact ⟨by simp, rfl, hacc⟩
    · exact fun h => h.2.1.symm
  | cons c s ih =>
    rw [parse_digits_cons]
    by_cases hc : c.isDigit = true
    · rw [if_pos hc]
      by_cases hfits : 10 * acc + (c.toNat - '0'.toNat) < 2 ^ 32
      · rw [if_pos hfits, ih hfits]
        simp [decimal_digits, hc]
      · -- one more digit does not make a number smaller
        have hle := le_foldl_digits (decimal_digits s) (10 * acc + (c.toNat - '0'.toNat))
        simp only [hfits, if_false, reduceCtorEq, false_iff]
        rintro ⟨-, hn, hlt⟩
        rw [decimal_digits, List.map_cons, List.foldl_cons, ← decimal_digits] at hn
        omega
    · simp [hc]

theorem parse_digits_zero {s : List Char} {n : UInt32} :
    (parse_digits s 0).map UInt32.ofNat = some n ↔
      (∀ c ∈ s, c.isDigit = true) ∧ decimal s = n.toNat := by
  constructor
  · intro h
    obtain ⟨m, hm, rfl⟩ := Option.map_eq_some_iff.mp h
    obtain ⟨hdigits, hvalue, hlt⟩ := (parse_digits_eq_some (by decide)).mp hm
    refine ⟨hdigits, ?_⟩
    rw [UInt32.toNat_ofNat', Nat.mod_eq_of_lt hlt, hvalue]
    rfl
  · rintro ⟨hdigits, hvalue⟩
    have hm : parse_digits s 0 = some n.toNat :=
      (parse_digits_eq_some (by decide)).mpr ⟨hdigits, hvalue.symm, n.toNat_lt⟩
    rw [hm, Option.map_some, UInt32.ofNat_toNat]

theorem parse_u32_eq_some {s : List Char} {n : UInt32} :
    parse_u32 s = some n ↔
      ∃ digits, (s = digits ∨ s = '+' :: digits) ∧ IsDecimal digits ∧ decimal digits = n.toNat := by
  unfold parse_u32
  split
  · simp only [reduceCtorEq, false_iff, not_exists, not_and]
    rintro digits (rfl | h) hdigits
    · exact absurd rfl hdigits.1
    · cases h
  · simp only [reduceCtorEq, false_iff, not_exists, not_and]
    rintro digits (rfl | h) hdigits
    · exact absurd (hdigits.2 '+' (by simp)) (by decide)
    · exact absurd (List.cons.inj h).2.symm hdigits.1
  · next digits hne =>
    rw [parse_digits_zero]
    constructor
    · rintro ⟨hall, hvalue⟩
      refine ⟨digits, .inr rfl, ⟨?_, hall⟩, hvalue⟩
      rintro rfl
      exact hne rfl
    · rintro ⟨other, h | h, hother, hvalue⟩
      · exact absurd (hother.2 '+' (by simp [← h])) (by decide)
      · rw [(List.cons.inj h).2]
        exact ⟨hother.2, hvalue⟩
  · next hnil hplus hsign =>
    rw [parse_digits_zero]
    constructor
    · rintro ⟨hall, hvalue⟩
      exact ⟨s, .inl rfl, ⟨fun h => hnil h, hall⟩, hvalue⟩
    · rintro ⟨other, rfl | rfl, hother, hvalue⟩
      · exact ⟨hother.2, hvalue⟩
      · exact absurd rfl (hsign other)

/-! ## What `Display` writes -/

theorem digit_char_isDigit : ∀ d < 10, (digit_char d).isDigit = true := by decide

theorem digit_char_toNat : ∀ d < 10, (digit_char d).toNat - '0'.toNat = d := by decide

theorem isDecimal_show_number (n : Nat) : IsDecimal (show_number 10 n) := by
  refine ⟨by simpa [show_number] using numeral_ne_nil 10 n, fun c hc => ?_⟩
  obtain ⟨d, hd, rfl⟩ := List.mem_map.mp hc
  exact digit_char_isDigit d (numeral_lt (by decide) hd)

theorem decimal_show_number (n : Nat) : decimal (show_number 10 n) = n := by
  have hdigits : decimal_digits (show_number 10 n) = numeral 10 n := by
    rw [decimal_digits, show_number, List.map_map]
    refine (List.map_congr_left fun d hd => ?_).trans (List.map_id _)
    exact digit_char_toNat d (numeral_lt (by decide) hd)
  rw [decimal, hdigits, value_numeral]

theorem notMem_show_number {c : Char} (hc : c.isDigit = false) (n : Nat) :
    c ∉ show_number 10 n := by
  intro hmem
  have hdigit := (isDecimal_show_number n).2 c hmem
  rw [hc] at hdigit
  cases hdigit

theorem parse_u16_show_number (n : UInt16) : parse_u16 (show_number 10 n.toNat) = some n := by
  have hparse : parse_u32 (show_number 10 n.toNat) = some n.toUInt32 :=
    parse_u32_eq_some.mpr ⟨_, .inl rfl, isDecimal_show_number _, by simp [decimal_show_number]⟩
  have hlt : n.toUInt32 < 65536 := by
    rw [UInt32.lt_iff_toNat_lt, UInt16.toNat_toUInt32]
    exact n.toNat_lt
  rw [parse_u16, hparse, Option.bind_some, if_pos hlt, UInt16.toUInt16_toUInt32]

end Alknet.Rust
