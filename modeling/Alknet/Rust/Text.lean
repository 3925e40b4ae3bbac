import Alknet.Rust.Str
import Mathlib.Data.List.Infix

/-! # Splitting, trimming and slicing text, as the Rust library does it -/

namespace Alknet.Rust

/-! ## Parts -/

/-- `str::find`, and the slices before and after what was found. -/
def split_once (c : Char) : List Char → Option (List Char × List Char)
  | [] => none
  | x :: s =>
    if x = c then some ([], s)
    else (split_once c s).map fun parts => (x :: parts.1, parts.2)

/-- `str::rfind`, and the slices before and after what was found. -/
def rsplit_once (c : Char) : List Char → Option (List Char × List Char)
  | [] => none
  | x :: s =>
    match rsplit_once c s with
    | some parts => some (x :: parts.1, parts.2)
    | none => if x = c then some ([], s) else none

/-- `str::splitn` -/
def splitn : (n : Nat) → (c : Char) → List Char → List (List Char)
  | 0, _, _ => []
  | 1, _, s => [s]
  | n + 2, c, s =>
    match split_once c s with
    | some (first, rest) => first :: splitn (n + 1) c rest
    | none => [s]

section

variable {c : Char} {s a b : List Char}

theorem split_once_eq_none : split_once c s = none ↔ c ∉ s := by
  induction s with
  | nil => simp [split_once]
  | cons x s ih =>
    unfold split_once
    by_cases hx : x = c
    · simp [hx]
    · simp [hx, ih, Ne.symm hx]

theorem split_once_append (h : c ∉ a) (b : List Char) :
    split_once c (a ++ c :: b) = some (a, b) := by
  induction a with
  | nil => simp [split_once]
  | cons x a ih =>
    have hx : x ≠ c := fun heq => h (heq ▸ List.mem_cons_self)
    have ha : c ∉ a := fun hmem => h (List.mem_cons_of_mem x hmem)
    rw [List.cons_append, split_once, if_neg hx, ih ha]
    rfl

theorem split_once_eq_some : split_once c s = some (a, b) ↔ s = a ++ c :: b ∧ c ∉ a := by
  constructor
  · intro h
    have hmem : c ∈ s := by
      by_contra hnot
      rw [split_once_eq_none.mpr hnot] at h
      cases h
    obtain ⟨a', b', rfl, ha'⟩ := List.eq_append_cons_of_mem hmem
    rw [split_once_append ha'] at h
    cases h
    exact ⟨rfl, ha'⟩
  · rintro ⟨rfl, ha⟩
    exact split_once_append ha b

theorem splitOn_eq (c : Char) (s : List Char) :
    s.splitOn c = match split_once c s with
      | some (first, rest) => first :: rest.splitOn c
      | none => [s] := by
  induction s with
  | nil => rfl
  | cons x s ih =>
    rw [List.splitOn_eq_splitOnP] at ih ⊢
    rw [List.splitOnP_cons_eq_if_modifyHead, split_once]
    by_cases hx : x = c
    · rw [if_pos (by simpa using hx), if_pos hx]
      simp only [List.splitOn_eq_splitOnP]
    · rw [if_neg (by simpa using hx), if_neg hx, ih]
      cases split_once c s <;> rfl

theorem splitOn_append_cons (h : c ∉ a) (b : List Char) :
    (a ++ c :: b).splitOn c = a :: b.splitOn c := by
  rw [splitOn_eq, split_once_append h]

theorem splitOn_of_notMem (h : c ∉ s) : s.splitOn c = [s] := by
  rw [splitOn_eq, split_once_eq_none.mpr h]

theorem notMem_of_mem_splitOn {part : List Char} (h : part ∈ s.splitOn c) : c ∉ part := by
  induction hlen : s.length using Nat.strong_induction_on generalizing s with
  | _ n ih =>
    rw [splitOn_eq] at h
    cases hsplit : split_once c s with
    | none =>
      rw [hsplit] at h
      rw [List.mem_singleton.mp h]
      exact split_once_eq_none.mp hsplit
    | some parts =>
      obtain ⟨first, rest⟩ := parts
      rw [hsplit] at h
      obtain ⟨rfl, hfirst⟩ := split_once_eq_some.mp hsplit
      rcases List.mem_cons.mp h with rfl | h
      · exact hfirst
      · exact ih rest.length (by simp at hlen; omega) h rfl

theorem rsplit_once_eq_none : rsplit_once c s = none ↔ c ∉ s := by
  induction s with
  | nil => simp [rsplit_once]
  | cons x s ih =>
    unfold rsplit_once
    cases h : rsplit_once c s with
    | some parts =>
      rw [h] at ih
      have hmem : c ∈ s := by simpa using ih
      simp [hmem]
    | none =>
      have hnot := ih.mp h
      by_cases hx : x = c
      · simp [hx]
      · simp [hx, hnot, Ne.symm hx]

theorem rsplit_once_append (h : c ∉ b) (a : List Char) :
    rsplit_once c (a ++ c :: b) = some (a, b) := by
  induction a with
  | nil => rw [List.nil_append, rsplit_once, rsplit_once_eq_none.mpr h]; simp
  | cons x a ih => rw [List.cons_append, rsplit_once, ih]

theorem rsplit_once_eq_some : rsplit_once c s = some (a, b) ↔ s = a ++ c :: b ∧ c ∉ b := by
  constructor
  · intro h
    have hmem : c ∈ s.reverse := by
      by_contra hnot
      rw [rsplit_once_eq_none.mpr (by simpa using hnot)] at h
      cases h
    obtain ⟨b', a', hs, hb'⟩ := List.eq_append_cons_of_mem hmem
    have hs' : s = a'.reverse ++ c :: b'.reverse := by
      rw [← List.reverse_reverse s, hs]
      simp
    rw [hs', rsplit_once_append (by simpa using hb')] at h
    cases h
    exact ⟨hs', by simpa using hb'⟩
  · rintro ⟨rfl, hb⟩
    exact rsplit_once_append hb a

end

/-! ## Lines -/

/-- `char::is_whitespace`: the characters with the property `White_Space`. -/
def is_whitespace (c : Char) : Bool :=
  let n := c.toNat
  (0x9 ≤ n && n ≤ 0xD) || n == 0x20 || n == 0x85 || n == 0xA0 || n == 0x1680 ||
    (0x2000 ≤ n && n ≤ 0x200A) || n == 0x2028 || n == 0x2029 || n == 0x202F || n == 0x205F ||
    n == 0x3000

/-- `str::trim` -/
def trim (s : List Char) : List Char := (s.dropWhile is_whitespace).rdropWhile is_whitespace

/-- A line feed takes one carriage return before it with it. -/
def strip_carriage_return (line : List Char) : List Char :=
  if line.getLast? = some '\r' then line.dropLast else line

/-- The lines of a text that was split at its line feeds. What is behind the last one is a line if
there is something. -/
def lines_of : List (List Char) → List (List Char)
  | [] => []
  | [last] => if last = [] then [] else [last]
  | line :: rest => strip_carriage_return line :: lines_of rest

/-- `str::lines` -/
def lines (s : List Char) : List (List Char) := lines_of (s.splitOn '\n')

/-! ## Slices -/

/-- `slice::windows` -/
def windows {α : Type} (n : Nat) (s : List α) : List (List α) :=
  (List.range (s.length + 1 - n)).map fun i => (s.drop i).take n

theorem mem_windows_iff {α : Type} {w s : List α} : w ∈ windows w.length s ↔ w <:+: s := by
  unfold windows
  rw [List.mem_map]
  constructor
  · rintro ⟨i, -, hi⟩
    rw [← hi]
    exact (List.take_prefix _ _).isInfix.trans (List.drop_suffix _ _).isInfix
  · rintro ⟨before, behind, rfl⟩
    refine ⟨before.length, List.mem_range.mpr ?_, ?_⟩
    · simp only [List.length_append]
      omega
    · rw [List.append_assoc, List.drop_left, List.take_left]

/-- `str::contains` -/
def contains (needle s : List Char) : Bool := s.tails.any needle.isPrefixOf

theorem contains_iff {needle s : List Char} : contains needle s = true ↔ needle <:+: s := by
  rw [contains, List.any_eq_true, List.infix_iff_prefix_suffix]
  simp only [List.mem_tails, List.isPrefixOf_iff_prefix]
  exact exists_congr fun _ => and_comm

/-- `&s[..n]`, if `n` is at a character boundary. -/
def slice_to : (n : Nat) → List Char → Option (List Char)
  | 0, _ => some []
  | _ + 1, [] => none
  | n + 1, c :: s =>
    if c.utf8Size ≤ n + 1 then (slice_to (n + 1 - c.utf8Size) s).map (c :: ·) else none

/-- How many bytes a text has. -/
def byte_len (s : List Char) : Nat := (String.ofList s).utf8ByteSize

@[simp] theorem byte_len_nil : byte_len [] = 0 := rfl

@[simp] theorem byte_len_cons (c : Char) (s : List Char) :
    byte_len (c :: s) = c.utf8Size + byte_len s := by
  rw [byte_len, String.ofList_cons, String.utf8ByteSize_append, String.utf8ByteSize_singleton]
  rfl

@[simp] theorem byte_len_append (s t : List Char) :
    byte_len (s ++ t) = byte_len s + byte_len t := by
  rw [byte_len, String.ofList_append, String.utf8ByteSize_append]
  rfl

theorem byte_len_eq_zero {s : List Char} : byte_len s = 0 ↔ s = [] := by
  cases s with
  | nil => simp
  | cons c s =>
    have := c.utf8Size_pos
    simp only [byte_len_cons, reduceCtorEq, iff_false]
    omega

theorem byte_len_toList (s : String) : byte_len s.toList = s.utf8ByteSize := by
  rw [byte_len, String.ofList_toList]

/-- A character of the text is on both sides of byte `n`. -/
def CharAcross (n : Nat) (s : List Char) : Prop :=
  ∃ before c after, s = before ++ c :: after ∧ byte_len before < n ∧
    n < byte_len before + c.utf8Size

theorem charAcross_cons {n : Nat} {c : Char} {s : List Char} :
    CharAcross n (c :: s) ↔ (0 < n ∧ n < c.utf8Size) ∨
      (c.utf8Size < n ∧ CharAcross (n - c.utf8Size) s) := by
  constructor
  · rintro ⟨before, c', after, hs, hlow, hhigh⟩
    cases before with
    | nil =>
      obtain ⟨rfl, -⟩ := List.cons.inj hs
      exact .inl ⟨by simpa using hlow, by simpa using hhigh⟩
    | cons x before =>
      obtain ⟨rfl, rfl⟩ := List.cons.inj hs
      rw [byte_len_cons] at hlow hhigh
      exact .inr ⟨by omega, before, c', after, rfl, by omega, by omega⟩
  · rintro (⟨hlow, hhigh⟩ | ⟨hsize, before, c', after, rfl, hlow, hhigh⟩)
    · exact ⟨[], c, s, rfl, by simpa using hlow, by simpa using hhigh⟩
    · refine ⟨c :: before, c', after, rfl, ?_, ?_⟩ <;> rw [byte_len_cons] <;> omega

theorem slice_to_spec {n : Nat} {s part : List Char} (h : slice_to n s = some part) :
    ∃ rest, s = part ++ rest ∧ byte_len part = n := by
  induction s generalizing n part with
  | nil =>
    cases n with
    | zero =>
      cases h
      exact ⟨[], rfl, rfl⟩
    | succ n => cases h
  | cons c s ih =>
    cases n with
    | zero =>
      cases h
      exact ⟨c :: s, rfl, rfl⟩
    | succ n =>
      unfold slice_to at h
      split at h
      · obtain ⟨part', hpart', rfl⟩ := Option.map_eq_some_iff.mp h
        obtain ⟨rest, rfl, hlen⟩ := ih hpart'
        exact ⟨rest, rfl, by rw [byte_len_cons]; omega⟩
      · cases h

theorem slice_to_eq_none {n : Nat} {s : List Char} (hn : n ≤ byte_len s) :
    slice_to n s = none ↔ CharAcross n s := by
  induction s generalizing n with
  | nil =>
    obtain rfl : n = 0 := by simpa using hn
    simp [slice_to, CharAcross]
  | cons c s ih =>
    cases n with
    | zero => simp [slice_to, CharAcross]
    | succ n =>
      rw [byte_len_cons] at hn
      unfold slice_to
      rw [charAcross_cons]
      split
      · rename_i hsize
        rw [Option.map_eq_none_iff, ih (by omega)]
        constructor
        · intro hacross
          have hpos : 0 < n + 1 - c.utf8Size := by
            obtain ⟨before, -, -, -, hlow, -⟩ := hacross
            omega
          exact .inr ⟨by omega, hacross⟩
        · rintro (⟨-, hhigh⟩ | ⟨-, hacross⟩)
          · omega
          · exact hacross
      · simp only [true_iff]
        omega

theorem slice_to_min_eq_none {n : Nat} {s : List Char} :
    slice_to (min (byte_len s) n) s = none ↔ CharAcross n s := by
  rw [slice_to_eq_none (Nat.min_le_left _ _)]
  rcases Nat.le_total n (byte_len s) with h | h
  · rw [Nat.min_eq_right h]
  · rw [Nat.min_eq_left h]
    have hnone : ∀ m, byte_len s ≤ m → ¬ CharAcross m s := by
      rintro m hm ⟨before, c, after, rfl, -, hhigh⟩
      rw [byte_len_append, byte_len_cons] at hm
      omega
    exact iff_of_false (hnone _ le_rfl) (hnone n h)

/-! ## Numbers and letters -/

/-- `str::parse::<u16>` -/
def parse_u16 (s : List Char) : Option UInt16 :=
  (parse_u32 s).bind fun n => if n < 65536 then some n.toUInt16 else none

/-- The tables behind `str::to_lowercase` for text that is not ASCII. -/
class Unicode where
  to_lowercase : String → String

/-- `str::to_lowercase` -/
def to_lowercase [Unicode] (s : String) : String :=
  if s.toList.all fun c => c.toNat < 128 then String.ofList (s.toList.map Char.toLower)
  else Unicode.to_lowercase s

end Alknet.Rust
