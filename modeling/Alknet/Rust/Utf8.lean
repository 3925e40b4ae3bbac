import Alknet.Rust.Text
import Mathlib.Data.Char

/-!
# `from_utf8_lossy` on any bytes

What comes out is text whose bytes are the input with its invalid parts replaced. A line feed is
never part of a longer sequence, so lines are decoded one by one.
-/

namespace Alknet.Rust

/-! ## Text as bytes -/

def encode (s : List Char) : List UInt8 := s.flatMap String.utf8EncodeChar

theorem as_bytes_ofList (s : List Char) : as_bytes (String.ofList s) = encode s := by
  simp [as_bytes, encode, String.toByteArray_ofList, List.utf8Encode]

theorem as_bytes_eq_encode (s : String) : as_bytes s = encode s.toList := by
  rw [← as_bytes_ofList, String.ofList_toList]

theorem from_utf8_encode (s : List Char) : from_utf8 (encode s) = some (String.ofList s) := by
  rw [← as_bytes_ofList, from_utf8_as_bytes]

theorem encode_injective {s t : List Char} (h : encode s = encode t) : s = t := by
  have hs := from_utf8_encode s
  rw [h, from_utf8_encode, Option.some.injEq] at hs
  rw [← String.toList_ofList (l := s), ← hs, String.toList_ofList]

theorem encode_append (s t : List Char) : encode (s ++ t) = encode s ++ encode t :=
  List.flatMap_append

theorem encode_cons (c : Char) (s : List Char) :
    encode (c :: s) = String.utf8EncodeChar c ++ encode s := List.flatMap_cons

/-! ## One sequence -/

/-- How many bytes behind the first belong to its sequence. -/
def more (first : UInt8) (bytes : List UInt8) : Nat :=
  if char_width first ≤ 1 then 0 else continued first bytes

theorem replace_invalid_cons (fuel : Nat) (first : UInt8) (bytes : List UInt8) :
    replace_invalid (fuel + 1) (first :: bytes) =
      if more first bytes + 1 = char_width first then
        first :: bytes.take (more first bytes) ++
          replace_invalid fuel (bytes.drop (more first bytes))
      else [0xEF, 0xBF, 0xBD] ++ replace_invalid fuel (bytes.drop (more first bytes)) := rfl

theorem utf8EncodeChar_ofNat {v : Nat} (h : v.isValidChar) :
    String.utf8EncodeChar (Char.ofNat v) =
      if v ≤ 127 then [UInt8.ofNat v]
      else if v ≤ 2047 then [UInt8.ofNat (v / 64 % 32 + 192), UInt8.ofNat (v % 64 + 128)]
      else if v ≤ 65535 then
        [UInt8.ofNat (v / 4096 % 16 + 224), UInt8.ofNat (v / 64 % 64 + 128),
          UInt8.ofNat (v % 64 + 128)]
      else
        [UInt8.ofNat (v / 262144 % 8 + 240), UInt8.ofNat (v / 4096 % 64 + 128),
          UInt8.ofNat (v / 64 % 64 + 128), UInt8.ofNat (v % 64 + 128)] := by
  have hv : (Char.ofNat v).val.toNat = v := by
    rw [Char.ofNat, dif_pos h]
    rfl
  simp only [String.utf8EncodeChar, hv]

theorem is_cont_iff (b : UInt8) : is_cont b = true ↔ 128 ≤ b.toNat ∧ b.toNat ≤ 191 := by
  simp [is_cont, UInt8.le_iff_toNat_le]

theorem second_byte_iff (first second : UInt8) :
    second_byte first second = true ↔
      128 ≤ second.toNat ∧ second.toNat ≤ 191 ∧ (first.toNat = 224 → 160 ≤ second.toNat) ∧
        (first.toNat = 237 → second.toNat ≤ 159) ∧ (first.toNat = 240 → 144 ≤ second.toNat) ∧
        (first.toNat = 244 → second.toNat ≤ 143) := by
  unfold second_byte is_cont
  simp only [← UInt8.toNat_inj, UInt8.reduceToNat]
  split_ifs <;> simp only [Bool.and_eq_true, decide_eq_true_eq, UInt8.le_iff_toNat_le,
    UInt8.reduceToNat] <;> omega

theorem char_width_eq (first : UInt8) :
    char_width first =
      if first.toNat < 128 then 1
      else if 194 ≤ first.toNat ∧ first.toNat ≤ 223 then 2
      else if 224 ≤ first.toNat ∧ first.toNat ≤ 239 then 3
      else if 240 ≤ first.toNat ∧ first.toNat ≤ 244 then 4
      else 0 := by
  unfold char_width
  simp only [UInt8.lt_iff_toNat_lt, UInt8.le_iff_toNat_le, UInt8.reduceToNat, Bool.and_eq_true,
    decide_eq_true_eq]

theorem continued_cons (first second : UInt8) (bytes : List UInt8) :
    continued first (second :: bytes) =
      if second_byte first second then
        1 + min (bytes.takeWhile is_cont).length (char_width first - 2)
      else 0 := rfl

theorem ofNat_eq_of_toNat {b : UInt8} {n : Nat} (h : n = b.toNat) : UInt8.ofNat n = b := by
  rw [h, UInt8.ofNat_toNat]

theorem exists_second {first : UInt8} {bytes : List UInt8} (h : continued first bytes ≠ 0) :
    ∃ second tail, bytes = second :: tail ∧ second_byte first second = true ∧
      continued first bytes =
        1 + min (tail.takeWhile is_cont).length (char_width first - 2) := by
  cases bytes with
  | nil => exact absurd rfl h
  | cons second tail =>
    rw [continued_cons] at h ⊢
    split at h
    · next hsecond => exact ⟨second, tail, rfl, hsecond, if_pos hsecond⟩
    · exact absurd rfl h

theorem exists_cont {bytes : List UInt8} (h : 0 < (bytes.takeWhile is_cont).length) :
    ∃ byte tail, bytes = byte :: tail ∧ is_cont byte = true ∧
      (bytes.takeWhile is_cont).length = (tail.takeWhile is_cont).length + 1 := by
  cases bytes with
  | nil => simp at h
  | cons byte tail =>
    by_cases hcont : is_cont byte = true
    · exact ⟨byte, tail, rfl, hcont, by simp [hcont]⟩
    · simp [hcont] at h

/-! The characters that two, three and four bytes stand for. -/

theorem exists_char_two {a b : UInt8} (ha : 194 ≤ a.toNat ∧ a.toNat ≤ 223)
    (hb : second_byte a b = true) : ∃ c, [a, b] = String.utf8EncodeChar c := by
  rw [second_byte_iff] at hb
  refine ⟨Char.ofNat ((a.toNat - 192) * 64 + (b.toNat - 128)), ?_⟩
  rw [utf8EncodeChar_ofNat (.inl (by omega)), if_neg (by omega), if_pos (by omega),
    ofNat_eq_of_toNat (b := a) (by omega), ofNat_eq_of_toNat (b := b) (by omega)]

theorem exists_char_three {a b d : UInt8} (ha : 224 ≤ a.toNat ∧ a.toNat ≤ 239)
    (hb : second_byte a b = true) (hd : is_cont d = true) :
    ∃ c, [a, b, d] = String.utf8EncodeChar c := by
  rw [second_byte_iff] at hb
  rw [is_cont_iff] at hd
  refine ⟨Char.ofNat ((a.toNat - 224) * 4096 + (b.toNat - 128) * 64 + (d.toNat - 128)), ?_⟩
  rw [utf8EncodeChar_ofNat (by unfold Nat.isValidChar; omega), if_neg (by omega),
    if_neg (by omega), if_pos (by omega), ofNat_eq_of_toNat (b := a) (by omega),
    ofNat_eq_of_toNat (b := b) (by omega), ofNat_eq_of_toNat (b := d) (by omega)]

theorem exists_char_four {a b d e : UInt8} (ha : 240 ≤ a.toNat ∧ a.toNat ≤ 244)
    (hb : second_byte a b = true) (hd : is_cont d = true) (he : is_cont e = true) :
    ∃ c, [a, b, d, e] = String.utf8EncodeChar c := by
  rw [second_byte_iff] at hb
  rw [is_cont_iff] at hd he
  refine ⟨Char.ofNat ((a.toNat - 240) * 262144 + (b.toNat - 128) * 4096 +
    (d.toNat - 128) * 64 + (e.toNat - 128)), ?_⟩
  rw [utf8EncodeChar_ofNat (by unfold Nat.isValidChar; omega), if_neg (by omega),
    if_neg (by omega), if_neg (by omega), ofNat_eq_of_toNat (b := a) (by omega),
    ofNat_eq_of_toNat (b := b) (by omega), ofNat_eq_of_toNat (b := d) (by omega),
    ofNat_eq_of_toNat (b := e) (by omega)]

theorem exists_char {first : UInt8} {bytes : List UInt8}
    (h : more first bytes + 1 = char_width first) :
    ∃ c, first :: bytes.take (more first bytes) = String.utf8EncodeChar c := by
  unfold more at h ⊢
  have hwidth := char_width_eq first
  split at h
  · next hle =>
    have hone : char_width first = 1 := by omega
    rw [if_pos hle]
    have hlt : first.toNat < 128 := by
      by_contra hge
      rw [if_neg hge] at hwidth
      split_ifs at hwidth <;> omega
    refine ⟨Char.ofNat first.toNat, ?_⟩
    rw [utf8EncodeChar_ofNat (.inl (by omega)), if_pos (by omega), UInt8.ofNat_toNat]
    rfl
  · next hlong =>
    rw [if_neg hlong]
    have hgoes : continued first bytes ≠ 0 := by omega
    obtain ⟨second, tail, rfl, hsecond, hcont⟩ := exists_second hgoes
    rw [hcont] at h ⊢
    split_ifs at hwidth with h1 h2 h3 h4
    · omega
    · rw [hwidth, Nat.sub_self, Nat.min_zero]
      exact exists_char_two h2 hsecond
    · rw [hwidth] at h ⊢
      have hthere : 0 < (tail.takeWhile is_cont).length := by omega
      obtain ⟨third, tail, rfl, hthird, -⟩ := exists_cont hthere
      have htwo : min (List.takeWhile is_cont (third :: tail)).length (3 - 2) = 1 := by omega
      rw [htwo]
      exact exists_char_three h3 hsecond hthird
    · rw [hwidth] at h ⊢
      have hthere : 1 < (tail.takeWhile is_cont).length := by omega
      obtain ⟨third, tail, rfl, hthird, hlength⟩ := exists_cont (lt_trans Nat.zero_lt_one hthere)
      have hthere' : 0 < (tail.takeWhile is_cont).length := by omega
      obtain ⟨fourth, tail, rfl, hfourth, -⟩ := exists_cont hthere'
      have hthree : min (List.takeWhile is_cont (third :: fourth :: tail)).length (4 - 2) = 2 := by
        omega
      rw [hthree]
      exact exists_char_four h4 hsecond hthird hfourth
    · omega

theorem take_while_cont {byte : UInt8} (h : is_cont byte = true) (bytes : List UInt8) :
    ((byte :: bytes).takeWhile is_cont).length = (bytes.takeWhile is_cont).length + 1 := by
  simp [h]

theorem more_of_second {first second : UInt8} {tail : List UInt8} (hwidth : 1 < char_width first)
    (hsecond : second_byte first second = true) :
    more first (second :: tail) =
      1 + min (tail.takeWhile is_cont).length (char_width first - 2) := by
  rw [more, if_neg (by omega), continued_cons, if_pos hsecond]

theorem utf8EncodeChar_whole (c : Char) (rest : List UInt8) :
    ∃ first bytes, String.utf8EncodeChar c = first :: bytes ∧
      more first (bytes ++ rest) = bytes.length ∧ bytes.length + 1 = char_width first := by
  have hvalid : c.val.toNat.isValidChar := c.valid
  have hbyte : ∀ n < 256, (UInt8.ofNat n).toNat = n := fun n hn => UInt8.toNat_ofNat_of_lt' hn
  have hcont : ∀ n, is_cont (UInt8.ofNat (n % 64 + 128)) = true := by
    intro n
    rw [is_cont_iff, hbyte _ (by omega)]
    omega
  unfold String.utf8EncodeChar
  dsimp only
  generalize c.val.toNat = v at hvalid ⊢
  unfold Nat.isValidChar at hvalid
  split_ifs with h1 h2 h3
  · have hwidth : char_width (UInt8.ofNat v) = 1 := by
      rw [char_width_eq, hbyte v (by omega), if_pos (by omega)]
    exact ⟨_, [], rfl, by simp [more, hwidth], hwidth.symm⟩
  · have hwidth : char_width (UInt8.ofNat (v / 64 % 32 + 192)) = 2 := by
      rw [char_width_eq, hbyte _ (by omega), if_neg (by omega), if_pos (by omega)]
    refine ⟨_, _, rfl, ?_, hwidth.symm⟩
    rw [List.cons_append, more_of_second (by omega), hwidth]
    · simp
    · rw [second_byte_iff, hbyte _ (by omega), hbyte _ (by omega)]
      omega
  · have hwidth : char_width (UInt8.ofNat (v / 4096 % 16 + 224)) = 3 := by
      rw [char_width_eq, hbyte _ (by omega), if_neg (by omega), if_neg (by omega),
        if_pos (by omega)]
    refine ⟨_, _, rfl, ?_, hwidth.symm⟩
    rw [List.cons_append, more_of_second (by omega), hwidth, List.cons_append,
      take_while_cont (hcont v)]
    · simp
    · rw [second_byte_iff, hbyte _ (by omega), hbyte _ (by omega)]
      omega
  · have hwidth : char_width (UInt8.ofNat (v / 262144 % 8 + 240)) = 4 := by
      rw [char_width_eq, hbyte _ (by omega), if_neg (by omega), if_neg (by omega),
        if_neg (by omega), if_pos (by omega)]
    refine ⟨_, _, rfl, ?_, hwidth.symm⟩
    rw [List.cons_append, more_of_second (by omega), hwidth, List.cons_append,
      take_while_cont (hcont (v / 64)), List.cons_append, take_while_cont (hcont v)]
    · simp
    · rw [second_byte_iff, hbyte _ (by omega), hbyte _ (by omega)]
      omega

/-! ## Whole texts -/

theorem replace_invalid_valid (fuel : Nat) (bytes : List UInt8) :
    ∃ s, replace_invalid fuel bytes = encode s := by
  induction fuel generalizing bytes with
  | zero => exact ⟨[], rfl⟩
  | succ fuel ih =>
    cases bytes with
    | nil => exact ⟨[], rfl⟩
    | cons first bytes =>
      obtain ⟨s, hs⟩ := ih (bytes.drop (more first bytes))
      rw [replace_invalid_cons, hs]
      split
      · next hwhole =>
        obtain ⟨c, hc⟩ := exists_char hwhole
        exact ⟨c :: s, by rw [hc, encode_cons]⟩
      · exact ⟨Char.ofNat 0xFFFD :: s, rfl⟩

theorem replace_invalid_encode (s : List Char) (fuel : Nat) (hfuel : (encode s).length ≤ fuel) :
    replace_invalid fuel (encode s) = encode s := by
  induction s generalizing fuel with
  | nil => cases fuel <;> rfl
  | cons c s ih =>
    obtain ⟨first, bytes, hc, hmore, hwidth⟩ := utf8EncodeChar_whole c (encode s)
    rw [encode_cons, hc] at hfuel ⊢
    simp only [List.cons_append, List.length_cons, List.length_append] at hfuel
    cases fuel with
    | zero => omega
    | succ fuel =>
      rw [List.cons_append, replace_invalid_cons, hmore, if_pos hwidth, List.take_left,
        List.drop_left, ih fuel (by omega)]
      simp

theorem as_bytes_from_utf8_lossy (bytes : List UInt8) :
    as_bytes (from_utf8_lossy bytes) = replace_invalid bytes.length bytes := by
  unfold from_utf8_lossy
  split
  · next s hs =>
    rw [eq_as_bytes_of_from_utf8 hs, as_bytes_eq_encode, replace_invalid_encode _ _ le_rfl]
  · obtain ⟨s, hs⟩ := replace_invalid_valid bytes.length bytes
    rw [hs, from_utf8_encode, Option.getD_some, as_bytes_ofList]

theorem encode_from_utf8_lossy (bytes : List UInt8) :
    encode (from_utf8_lossy bytes).toList = replace_invalid bytes.length bytes := by
  rw [← as_bytes_eq_encode, as_bytes_from_utf8_lossy]

/-! ## Lines -/

theorem continued_le (first : UInt8) (bytes : List UInt8) :
    continued first bytes ≤ bytes.length := by
  cases bytes with
  | nil => exact le_rfl
  | cons second bytes =>
    have hle : (bytes.takeWhile is_cont).length ≤ bytes.length :=
      (List.takeWhile_sublist is_cont).length_le
    rw [continued_cons, List.length_cons]
    split <;> omega

theorem more_le (first : UInt8) (bytes : List UInt8) : more first bytes ≤ bytes.length := by
  unfold more
  split
  · exact Nat.zero_le _
  · exact continued_le first bytes

theorem takeWhile_cont_append (a b : List UInt8) :
    (a ++ 10 :: b).takeWhile is_cont = a.takeWhile is_cont := by
  induction a with
  | nil => rfl
  | cons byte a ih =>
    rw [List.cons_append, List.takeWhile_cons, List.takeWhile_cons, ih]

theorem more_append (first : UInt8) (a b : List UInt8) :
    more first (a ++ 10 :: b) = more first a := by
  unfold more
  split
  · rfl
  · cases a with
    | nil =>
      have hsecond : second_byte first 10 = false := by
        rw [Bool.eq_false_iff, ne_eq, second_byte_iff]
        rintro ⟨hge, -⟩
        exact absurd hge (by decide)
      rw [List.nil_append, continued_cons, hsecond]
      rfl
    | cons second a =>
      rw [List.cons_append, continued_cons, continued_cons, takeWhile_cont_append]

theorem replace_invalid_fuel {fuel fuel' : Nat} {bytes : List UInt8} (h : bytes.length ≤ fuel)
    (h' : bytes.length ≤ fuel') : replace_invalid fuel bytes = replace_invalid fuel' bytes := by
  induction fuel generalizing fuel' bytes with
  | zero =>
    obtain rfl := List.length_eq_zero_iff.mp (Nat.le_zero.mp h)
    cases fuel' <;> rfl
  | succ fuel ih =>
    cases bytes with
    | nil => cases fuel' <;> rfl
    | cons first bytes =>
      rw [List.length_cons] at h h'
      cases fuel' with
      | zero => omega
      | succ fuel' =>
        have hdrop : replace_invalid fuel (bytes.drop (more first bytes)) =
            replace_invalid fuel' (bytes.drop (more first bytes)) := by
          apply ih <;> rw [List.length_drop] <;> omega
        rw [replace_invalid_cons, replace_invalid_cons, hdrop]

theorem replace_invalid_append (fuel : Nat) (a b : List UInt8)
    (hfuel : (a ++ 10 :: b).length ≤ fuel) :
    replace_invalid fuel (a ++ 10 :: b) =
      replace_invalid a.length a ++ 10 :: replace_invalid b.length b := by
  induction fuel generalizing a with
  | zero => simp at hfuel
  | succ fuel ih =>
    cases a with
    | nil =>
      rw [List.nil_append, List.length_cons] at hfuel
      have hb : replace_invalid fuel b = replace_invalid b.length b :=
        replace_invalid_fuel (by omega) le_rfl
      rw [← hb]
      rfl
    | cons first a =>
      have hle := more_le first a
      have hrest := ih (a.drop (more first a)) (by
        simp only [List.cons_append, List.length_cons, List.length_append, List.length_drop]
          at hfuel ⊢
        omega)
      have ha : replace_invalid (a.drop (more first a)).length (a.drop (more first a)) =
          replace_invalid a.length (a.drop (more first a)) :=
        replace_invalid_fuel le_rfl (by rw [List.length_drop]; omega)
      rw [List.cons_append, replace_invalid_cons, more_append, List.take_append_of_le_length hle,
        List.drop_append_of_le_length hle, hrest, ha, List.length_cons, replace_invalid_cons]
      split <;> simp

theorem from_utf8_lossy_append (a b : List UInt8) :
    (from_utf8_lossy (a ++ 10 :: b)).toList =
      (from_utf8_lossy a).toList ++ '\n' :: (from_utf8_lossy b).toList := by
  apply encode_injective
  rw [encode_from_utf8_lossy, replace_invalid_append _ _ _ le_rfl, encode_append, encode_cons,
    encode_from_utf8_lossy, encode_from_utf8_lossy]
  rfl

theorem mem_replace_invalid {fuel : Nat} {bytes : List UInt8} {b : UInt8}
    (h : b ∈ replace_invalid fuel bytes) : b ∈ bytes ∨ b ∈ [0xEF, 0xBF, 0xBD] := by
  induction fuel generalizing bytes with
  | zero => cases h
  | succ fuel ih =>
    cases bytes with
    | nil => cases h
    | cons first bytes =>
      have hrest : b ∈ replace_invalid fuel (bytes.drop (more first bytes)) →
          b ∈ first :: bytes ∨ b ∈ [0xEF, 0xBF, 0xBD] := fun hmem =>
        (ih hmem).imp_left fun hdrop => List.mem_cons_of_mem _ (List.mem_of_mem_drop hdrop)
      rw [replace_invalid_cons] at h
      split at h
      · rcases List.mem_append.mp h with hpiece | hmem
        · refine .inl ?_
          rcases List.mem_cons.mp hpiece with rfl | htake
          · exact List.mem_cons_self
          · exact List.mem_cons_of_mem _ (List.mem_of_mem_take htake)
        · exact hrest hmem
      · rcases List.mem_append.mp h with hpiece | hmem
        · exact .inr hpiece
        · exact hrest hmem

theorem lineFeed_notMem_lossy {a : List UInt8} (h : 10 ∉ a) :
    '\n' ∉ (from_utf8_lossy a).toList := by
  intro hmem
  have hbyte : (10 : UInt8) ∈ encode (from_utf8_lossy a).toList :=
    List.mem_flatMap.mpr ⟨'\n', hmem, by decide⟩
  rw [encode_from_utf8_lossy] at hbyte
  rcases mem_replace_invalid hbyte with hin | hin
  · exact h hin
  · exact absurd hin (by decide)

theorem lines_from_utf8_lossy {a : List UInt8} (h : 10 ∉ a) (b : List UInt8) :
    ∃ rest, lines (from_utf8_lossy (a ++ 10 :: b)).toList =
      strip_carriage_return (from_utf8_lossy a).toList :: rest := by
  rw [from_utf8_lossy_append, lines, splitOn_append_cons (lineFeed_notMem_lossy h)]
  cases hsplit : (from_utf8_lossy b).toList.splitOn '\n' with
  | nil => exact absurd hsplit (List.splitOn_ne_nil _ _)
  | cons next rest => exact ⟨_, rfl⟩

end Alknet.Rust
