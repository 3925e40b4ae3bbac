import Alknet.Code.Secret.Service
import Alknet.Rust.Decimal

/-!
# Which texts are derivation paths

A path in the strict sense is `m` and components, each a decimal number below `2^31` with at most
one mark behind it. The parser takes more: any text that starts with `m` before the first slash, a
sign before a number, several marks, and numbers up to `2^32`, of which the marked ones overflow.
-/

open Alknet.Rust

namespace Alknet.Secret.Path

/-! ## Strict paths -/

inductive Mark where
  | apostrophe
  | h
deriving DecidableEq

def Mark.char : Mark → Char
  | .apostrophe => Secret.apostrophe
  | .h => 'h'

structure Component where
  digits : List Char
  mark : Option Mark
  decimal : IsDecimal digits
  below : Rust.decimal digits < 2 ^ 31

namespace Component

def text (c : Component) : List Char := c.digits ++ (c.mark.map Mark.char).toList

def number (c : Component) : Nat := Rust.decimal c.digits

def hardened (c : Component) : Bool := c.mark.isSome

def index (c : Component) : Nat := c.number + if c.hardened then 2 ^ 31 else 0

theorem index_inj {c c' : Component} (h : c.index = c'.index) :
    c.number = c'.number ∧ c.hardened = c'.hardened := by
  have hc : c.number < 2 ^ 31 := c.below
  have hc' : c'.number < 2 ^ 31 := c'.below
  unfold index at h
  cases hh : c.hardened <;> cases hh' : c'.hardened <;> simp [hh, hh'] at h ⊢ <;> omega

end Component

def IsPath (path : String) (components : List Component) : Prop :=
  path.toList = 'm' :: components.flatMap fun c => '/' :: c.text

/-! ## The parts of a text -/

/-- What the parser reads as a number. -/
def index_str (part : List Char) : List Char :=
  trim_end_matches 'h' (trim_end_matches apostrophe part)

/-- What it cuts off behind the number. -/
def marks (part : List Char) : List Char :=
  (trim_end_matches apostrophe part).rtakeWhile (· == 'h') ++ part.rtakeWhile (· == apostrophe)

theorem index_str_append_marks (part : List Char) : index_str part ++ marks part = part := by
  unfold index_str marks trim_end_matches
  rw [← List.append_assoc, List.rdropWhile_append_rtakeWhile, List.rdropWhile_append_rtakeWhile]

theorem ends_with_char_iff (c : Char) (part : List Char) :
    ends_with_char c part = true ↔ part.rtakeWhile (· == c) ≠ [] := by
  rw [Ne, List.rtakeWhile_eq_nil_iff]
  unfold ends_with_char
  cases hlast : part.getLast? with
  | none =>
    obtain rfl := List.getLast?_eq_none_iff.mp hlast
    simp
  | some last =>
    have hne : part ≠ [] := by
      rintro rfl
      cases hlast
    rw [List.getLast?_eq_some_getLast hne, Option.some.injEq] at hlast
    simp [hne, hlast]

theorem hardened_iff (part : List Char) :
    (ends_with_char apostrophe part || ends_with_char 'h' part) = true ↔ marks part ≠ [] := by
  rw [Bool.or_eq_true, ends_with_char_iff, ends_with_char_iff, marks]
  by_cases h : part.rtakeWhile (· == apostrophe) = []
  · -- no apostrophe is cut off before the marks `h`
    have htrim : trim_end_matches apostrophe part = part := by
      have hpart := List.rdropWhile_append_rtakeWhile (p := (· == apostrophe)) (l := part)
      rw [h, List.append_nil] at hpart
      exact hpart
    simp [h, htrim]
  · simp [h]

def number (part : List Char) : Option UInt32 := parse_u32 (index_str part)

/-- A marked number of `2^31` or more. -/
def Overflows (part : List Char) : Prop :=
  marks part ≠ [] ∧ ∃ n, number part = some n ∧ 2 ^ 31 ≤ n.toNat

/-- A number with a sign, with several marks, or of `2^31` or more. -/
def Loose (part : List Char) : Prop :=
  (index_str part).head? = some '+' ∨ 1 < (marks part).length ∨
    ∃ n, number part = some n ∧ 2 ^ 31 ≤ n.toNat

/-! ## One component -/

theorem parse_component_of_none {part : List Char} (h : number part = none) (build : Build) :
    parse_component build part =
      .error (.err (.InvalidPath ("invalid index: " ++ String.ofList part))) := by
  unfold number index_str at h
  simp only [parse_component, h]

theorem parse_component_of_some {part : List Char} {n : UInt32} (h : number part = some n)
    (build : Build) :
    parse_component build part =
      if marks part ≠ [] then
        if build.overflow_checks && 2 ^ 32 ≤ n.toNat + 0x80000000 then
          .error (.panic .arithmeticOverflow)
        else .ok (n + 0x80000000)
      else .ok n := by
  unfold number index_str at h
  simp only [parse_component, h, hardened_iff]

theorem parse_component_ok_or_panic {part : List Char} {n : UInt32} (h : number part = some n)
    (build : Build) :
    (∃ i, parse_component build part = .ok i) ∨
      ∃ cause, parse_component build part = .error (.panic cause) := by
  rw [parse_component_of_some h]
  split_ifs
  · exact .inr ⟨_, rfl⟩
  · exact .inl ⟨_, rfl⟩
  · exact .inl ⟨_, rfl⟩

theorem parse_component_returns (build : Build) (part : List Char) :
    Returns (parse_component build part) ↔ (build.overflow_checks = true → ¬ Overflows part) := by
  cases hn : number part with
  | none =>
    rw [parse_component_of_none hn]
    simp [Overflows, hn]
  | some n =>
    rw [parse_component_of_some hn]
    simp only [Overflows, hn, Option.some.injEq, exists_eq_left']
    split
    · next hmarks =>
      split
      · next hover =>
        simp only [Bool.and_eq_true, decide_eq_true_eq] at hover
        simp only [not_returns_panic, false_iff, Classical.not_imp, not_not]
        exact ⟨hover.1, hmarks, by omega⟩
      · next hfits =>
        simp only [Bool.and_eq_true, decide_eq_true_eq, not_and] at hfits
        simp only [returns_ok, true_iff]
        rintro hchecks ⟨-, hbig⟩
        exact hfits hchecks (by omega)
    · next hmarks => simp [hmarks]

theorem parse_component_eq_ok {part : List Char} (h : ¬ Overflows part) {build : Build}
    {i : UInt32} :
    parse_component build part = .ok i ↔
      ∃ n, number part = some n ∧
        i.toNat = n.toNat + if marks part ≠ [] then 2 ^ 31 else 0 := by
  cases hn : number part with
  | none => simp [parse_component_of_none hn]
  | some n =>
    rw [parse_component_of_some hn]
    simp only [Option.some.injEq, exists_eq_left']
    split
    · next hmarks =>
      have hlt : n.toNat < 2 ^ 31 := by
        by_contra hbig
        exact h ⟨hmarks, n, hn, by omega⟩
      have hsum : (n + 0x80000000).toNat = n.toNat + 2 ^ 31 := by
        have hhalf : (0x80000000 : UInt32).toNat = 2 ^ 31 := rfl
        rw [UInt32.toNat_add, hhalf]
        exact Nat.mod_eq_of_lt (by omega)
      rw [if_neg (by simp; omega), Except.ok.injEq, ← hsum, UInt32.toNat_inj, eq_comm]
    · rw [Except.ok.injEq, Nat.add_zero, UInt32.toNat_inj, eq_comm]

/-! ## Strict components are parts that are not loose -/

theorem trim_end_matches_concat (c : Char) (s : List Char) :
    trim_end_matches c (s ++ [c]) = trim_end_matches c s :=
  List.rdropWhile_concat_pos _ _ _ (by simp)

theorem trim_end_matches_of_isDecimal {c : Char} (hc : c.isDigit = false) {digits : List Char}
    (h : IsDecimal digits) : trim_end_matches c digits = digits := by
  refine List.rdropWhile_eq_self_iff.mpr fun hne => ?_
  have hlast := h.2 _ (List.getLast_mem hne)
  rw [beq_iff_eq]
  rintro heq
  rw [heq, hc] at hlast
  cases hlast

theorem rtakeWhile_of_isDecimal {c : Char} (hc : c.isDigit = false) {digits : List Char}
    (h : IsDecimal digits) : digits.rtakeWhile (· == c) = [] := by
  have happend := List.rdropWhile_append_rtakeWhile (p := (· == c)) (l := digits)
  have htrim := trim_end_matches_of_isDecimal hc h
  unfold trim_end_matches at htrim
  rw [htrim] at happend
  exact List.append_right_eq_self.mp happend

theorem decimal_parts {digits : List Char} (h : IsDecimal digits) (mark : Option Mark) :
    index_str (digits ++ (mark.map Mark.char).toList) = digits ∧
      marks (digits ++ (mark.map Mark.char).toList) = (mark.map Mark.char).toList := by
  have hq := trim_end_matches_of_isDecimal (c := apostrophe) (by decide) h
  have hh := trim_end_matches_of_isDecimal (c := 'h') (by decide) h
  have hq' := rtakeWhile_of_isDecimal (c := apostrophe) (by decide) h
  have hh' := rtakeWhile_of_isDecimal (c := 'h') (by decide) h
  unfold index_str marks
  cases mark with
  | none => simp [hq, hh, hq', hh']
  | some mark =>
    cases mark with
    | apostrophe =>
      simp only [Option.map_some, Mark.char, Option.toList_some]
      rw [trim_end_matches_concat, hq, hh, hh', List.rtakeWhile_concat_pos _ _ _ (by simp), hq']
      simp
    | h =>
      have hkeep : trim_end_matches apostrophe (digits ++ ['h']) = digits ++ ['h'] :=
        List.rdropWhile_concat_neg _ _ _ (by decide)
      simp only [Option.map_some, Mark.char, Option.toList_some]
      rw [hkeep, trim_end_matches_concat, hh, List.rtakeWhile_concat_pos _ _ _ (by simp), hh',
        List.rtakeWhile_concat_neg _ _ _ (by decide)]
      simp

theorem Component.text_parts (c : Component) :
    index_str c.text = c.digits ∧ marks c.text = (c.mark.map Mark.char).toList :=
  decimal_parts c.decimal c.mark

theorem Component.number_text (c : Component) :
    ∃ n : UInt32, Path.number c.text = some n ∧ n.toNat = c.number := by
  have hlt : c.number < 2 ^ 32 := lt_trans c.below (by decide)
  refine ⟨UInt32.ofNat c.number, ?_, UInt32.toNat_ofNat_of_lt' hlt⟩
  rw [Path.number, c.text_parts.1, parse_u32_eq_some]
  exact ⟨c.digits, .inl rfl, c.decimal, (UInt32.toNat_ofNat_of_lt' hlt).symm⟩

theorem Component.not_loose (c : Component) : ¬ Loose c.text := by
  obtain ⟨n, hn, hvalue⟩ := c.number_text
  have hbelow : c.number < 2 ^ 31 := c.below
  unfold Loose
  rw [c.text_parts.1, c.text_parts.2]
  rintro (hsign | hmarks | ⟨n', hn', hbig⟩)
  · have hmem : '+' ∈ c.digits := List.mem_of_mem_head? hsign
    exact absurd (c.decimal.2 '+' hmem) (by decide)
  · cases hmark : c.mark <;> simp [hmark] at hmarks
  · rw [hn, Option.some.injEq] at hn'
    rw [← hn', hvalue] at hbig
    omega

theorem mem_marks {part : List Char} {c : Char} (h : c ∈ marks part) :
    c = 'h' ∨ c = apostrophe := by
  rcases List.mem_append.mp h with h | h
  · exact .inl (by simpa using List.mem_rtakeWhile_imp h)
  · exact .inr (by simpa using List.mem_rtakeWhile_imp h)

theorem exists_component {part : List Char} {n : UInt32} (hn : number part = some n)
    (hloose : ¬ Loose part) :
    ∃ c : Component, c.text = part ∧ c.number = n.toNat ∧
      (c.hardened = true ↔ marks part ≠ []) := by
  simp only [Loose, not_or, not_exists, not_and] at hloose
  obtain ⟨hsign, hmarks, hbelow⟩ := hloose
  obtain ⟨digits, hdigits | hplus, hdecimal, hvalue⟩ := parse_u32_eq_some.mp hn
  · have hlt : decimal digits < 2 ^ 31 := by
      have := hbelow n hn
      omega
    have hpart := index_str_append_marks part
    cases hm : marks part with
    | nil =>
      refine ⟨⟨digits, none, hdecimal, hlt⟩, ?_, hvalue, by simp [Component.hardened]⟩
      rw [hm, hdigits] at hpart
      exact hpart
    | cons c rest =>
      obtain rfl : rest = [] := by
        rw [hm, List.length_cons] at hmarks
        exact List.length_eq_zero_iff.mp (by omega)
      have hmem : c ∈ marks part := by simp [hm]
      have hmark : ∃ mark : Mark, mark.char = c := by
        rcases mem_marks hmem with rfl | rfl
        · exact ⟨.h, rfl⟩
        · exact ⟨.apostrophe, rfl⟩
      obtain ⟨mark, rfl⟩ := hmark
      refine ⟨⟨digits, some mark, hdecimal, hlt⟩, ?_, hvalue, by simp [Component.hardened]⟩
      rw [hm, hdigits] at hpart
      exact hpart
  · exact absurd (by rw [hplus]; rfl) hsign

/-! ## Whole paths -/

/-- The parts behind the first slash. -/
def parts (path : String) : List (List Char) := (path.toList.splitOn '/').drop 1

/-- The text before the first slash. -/
def root (path : String) : List Char := (path.toList.splitOn '/').headD []

theorem splitOn_slash (path : String) : path.toList.splitOn '/' = root path :: parts path := by
  unfold root parts
  cases h : path.toList.splitOn '/' with
  | nil => exact absurd h (List.splitOn_ne_nil _ _)
  | cons first rest => rfl

theorem intercalate_cons (c : Char) (first : List Char) (rest : List (List Char)) :
    [c].intercalate (first :: rest) = first ++ rest.flatMap (c :: ·) := by
  induction rest generalizing first with
  | nil => simp
  | cons second rest ih => rw [List.intercalate_cons_cons, ih]; simp

theorem Component.slash_notMem (c : Component) : '/' ∉ c.text := by
  intro hmem
  rcases List.mem_append.mp hmem with h | h
  · exact absurd (c.decimal.2 '/' h) (by decide)
  · cases hmark : c.mark with
    | none => simp [hmark] at h
    | some mark =>
      rw [hmark, Option.map_some, Option.toList_some, List.mem_singleton] at h
      cases mark <;> exact absurd h (by decide)

theorem isPath_iff {path : String} {components : List Component} :
    IsPath path components ↔ root path = ['m'] ∧ parts path = components.map (·.text) := by
  have hjoin : 'm' :: components.flatMap (fun c => '/' :: c.text) =
      ['/'].intercalate (['m'] :: components.map (·.text)) := by
    rw [intercalate_cons, List.flatMap_map]
    rfl
  unfold IsPath
  rw [hjoin]
  constructor
  · intro h
    have hsplit := splitOn_slash path
    rw [h, List.splitOn_intercalate '/' (by
      intro l hl
      rcases List.mem_cons.mp hl with rfl | hl
      · decide
      · obtain ⟨c, -, rfl⟩ := List.mem_map.mp hl
        exact c.slash_notMem) (by simp), List.cons.injEq] at hsplit
    exact ⟨hsplit.1.symm, hsplit.2.symm⟩
  · rintro ⟨hroot, hparts⟩
    rw [← hroot, ← hparts, ← splitOn_slash, List.intercalate_splitOn]

/-- No marked number that overflows stands before the first part that is no number. If all parts
are numbers, then `m` stands alone before them and none of them is loose. -/
def Sound (path : String) : Prop :=
  path.toList.head? = some 'm' →
    (∀ part ∈ (parts path).takeWhile fun part => (number part).isSome, ¬ Overflows part) ∧
    ((∀ part ∈ parts path, (number part).isSome) →
      root path = ['m'] ∧ ∀ part ∈ parts path, ¬ Loose part)

theorem parse_parts_returns (build : Build) (parts : List (List Char)) :
    Returns (parts.mapM (parse_component build)) ↔
      (build.overflow_checks = true →
        ∀ part ∈ parts.takeWhile fun part => (number part).isSome, ¬ Overflows part) := by
  induction parts with
  | nil => simp [pure, Except.pure]
  | cons part parts ih =>
    rw [List.mapM_cons, List.takeWhile_cons]
    cases hn : number part with
    | none => simp [parse_component_of_none hn, Bind.bind, Except.bind]
    | some n =>
      have hpart := parse_component_returns build part
      simp only [Option.isSome_some, if_true, List.forall_mem_cons]
      rcases parse_component_ok_or_panic hn build with ⟨i, hi⟩ | ⟨cause, hpanic⟩
      · rw [hi] at hpart
        simp only [returns_ok, true_iff] at hpart
        have hbind : Returns (parse_component build part >>= fun i =>
            parts.mapM (parse_component build) >>= fun is => pure (i :: is)) ↔
            Returns (parts.mapM (parse_component build)) := by
          rw [hi]
          exact bind_returns fun _ => pure_returns _
        rw [hbind, ih]
        grind
      · rw [hpanic] at hpart ⊢
        simp only [not_returns_panic, false_iff, Classical.not_imp, not_not] at hpart
        refine iff_of_false (not_returns_panic cause) fun h => (h hpart.1).1 hpart.2

theorem parse_derivation_path_returns (build : Build) (path : String) :
    Returns (parse_derivation_path build path) ↔
      (path.toList.head? = some 'm' → build.overflow_checks = true →
        ∀ part ∈ (parts path).takeWhile fun part => (number part).isSome, ¬ Overflows part) := by
  unfold parse_derivation_path
  split
  · next hm => simp only [hm, forall_const, parts, parse_parts_returns]
  · next hm => simp [hm]

theorem parse_derivation_path_eq_ok {build : Build} {path : String} {indices : List UInt32} :
    parse_derivation_path build path = .ok indices ↔
      path.toList.head? = some 'm' ∧
        List.Forall₂ (fun part i => parse_component build part = .ok i) (parts path) indices := by
  unfold parse_derivation_path
  split
  · next hm => simp [hm, mapM_eq_ok, parts]
  · next hm => simp [hm]

theorem number_isSome_of_ok {build : Build} {part : List Char} {i : UInt32}
    (h : parse_component build part = .ok i) : (number part).isSome := by
  cases hn : number part with
  | none =>
    rw [parse_component_of_none hn] at h
    cases h
  | some n => rfl

theorem each_ok {build : Build} {parts : List (List Char)} {indices : List UInt32}
    (h : List.Forall₂ (fun part i => parse_component build part = .ok i) parts indices) :
    ∀ part ∈ parts, ∃ i, parse_component build part = .ok i := by
  induction h with
  | nil => simp
  | cons hi _ ih => exact List.forall_mem_cons.mpr ⟨⟨_, hi⟩, ih⟩

theorem numbers_of_ok {build : Build} {parts : List (List Char)} {indices : List UInt32}
    (h : List.Forall₂ (fun part i => parse_component build part = .ok i) parts indices) :
    ∀ part ∈ parts, (number part).isSome := by
  intro part hpart
  obtain ⟨i, hi⟩ := each_ok h part hpart
  exact number_isSome_of_ok hi

/-- The index that a part stands for. -/
def index (part : List Char) : Nat :=
  ((number part).map UInt32.toNat).getD 0 + if marks part ≠ [] then 2 ^ 31 else 0

theorem parse_component_eq_ok_iff_index {part : List Char} (hsome : (number part).isSome)
    (hover : ¬ Overflows part) {build : Build} {i : UInt32} :
    parse_component build part = .ok i ↔ i.toNat = index part := by
  obtain ⟨n, hn⟩ := Option.isSome_iff_exists.mp hsome
  rw [parse_component_eq_ok hover, index, hn]
  simp

theorem parse_parts_eq_ok {parts : List (List Char)} (hsome : ∀ part ∈ parts, (number part).isSome)
    (hover : ∀ part ∈ parts, ¬ Overflows part) {build : Build} {indices : List UInt32} :
    List.Forall₂ (fun part i => parse_component build part = .ok i) parts indices ↔
      indices.map UInt32.toNat = parts.map index := by
  induction parts generalizing indices with
  | nil => simp
  | cons part parts ih =>
    rw [List.forall_mem_cons] at hsome hover
    cases indices with
    | nil => simp
    | cons i indices =>
      rw [List.forall₂_cons, ih hsome.2 hover.2,
        parse_component_eq_ok_iff_index hsome.1 hover.1, List.map_cons, List.map_cons,
        List.cons.injEq]

theorem index_lt {part : List Char} (hsome : (number part).isSome) (hover : ¬ Overflows part) :
    index part < 2 ^ 32 := by
  obtain ⟨n, hn⟩ := Option.isSome_iff_exists.mp hsome
  have hlt := n.toNat_lt
  unfold index
  rw [hn, Option.map_some, Option.getD_some]
  split
  · next hmarks =>
    have hbelow : ¬ 2 ^ 31 ≤ n.toNat := fun hbig => hover ⟨hmarks, n, hn, hbig⟩
    omega
  · omega

theorem exists_parse_parts {parts : List (List Char)} (hsome : ∀ part ∈ parts, (number part).isSome)
    (hover : ∀ part ∈ parts, ¬ Overflows part) (build : Build) :
    ∃ indices, List.Forall₂ (fun part i => parse_component build part = .ok i) parts indices := by
  refine ⟨parts.map fun part => UInt32.ofNat (index part), (parse_parts_eq_ok hsome hover).mpr ?_⟩
  rw [List.map_map]
  exact List.map_congr_left fun part hpart =>
    UInt32.toNat_ofNat_of_lt' (index_lt (hsome part hpart) (hover part hpart))

/-- What the parser returns, it returns for a strict path, with the indices of its components. -/
def StrictAt (path : String) : Prop :=
  ∀ build, Returns (parse_derivation_path build path) ∧
    ∀ indices, parse_derivation_path build path = .ok indices →
      ∃ components, IsPath path components ∧
        indices.map UInt32.toNat = components.map Component.index

theorem exists_components {build : Build} {parts : List (List Char)} {indices : List UInt32}
    (hloose : ∀ part ∈ parts, ¬ Loose part)
    (h : List.Forall₂ (fun part i => parse_component build part = .ok i) parts indices) :
    ∃ components : List Component, parts = components.map (·.text) ∧
      indices.map UInt32.toNat = components.map Component.index := by
  induction h with
  | nil => exact ⟨[], rfl, rfl⟩
  | @cons part i parts indices hi _ ih =>
    rw [List.forall_mem_cons] at hloose
    obtain ⟨components, hparts, hindices⟩ := ih hloose.2
    have hfits : ¬ Overflows part := fun hover => hloose.1 (.inr (.inr hover.2))
    obtain ⟨n, hn, hvalue⟩ := (parse_component_eq_ok hfits).mp hi
    obtain ⟨c, htext, hnumber, hmarks⟩ := exists_component hn hloose.1
    refine ⟨c :: components, by rw [hparts, List.map_cons, htext], ?_⟩
    rw [List.map_cons, List.map_cons, hindices, hvalue, Component.index, hnumber]
    simp only [hmarks]

theorem strictAt_iff (path : String) : StrictAt path ↔ Sound path := by
  constructor
  · intro h hm
    have hover := (parse_derivation_path_returns ⟨true, false⟩ path).mp (h _).1 hm rfl
    refine ⟨hover, fun hnumbers => ?_⟩
    rw [List.takeWhile_eq_self_iff.mpr hnumbers] at hover
    obtain ⟨indices, hindices⟩ := exists_parse_parts hnumbers hover ⟨true, false⟩
    obtain ⟨components, hpath, -⟩ :=
      (h _).2 indices (parse_derivation_path_eq_ok.mpr ⟨hm, hindices⟩)
    obtain ⟨hroot, hparts⟩ := isPath_iff.mp hpath
    refine ⟨hroot, fun part hpart => ?_⟩
    rw [hparts] at hpart
    obtain ⟨c, -, rfl⟩ := List.mem_map.mp hpart
    exact c.not_loose
  · intro h build
    refine ⟨(parse_derivation_path_returns build path).mpr fun hm _ => (h hm).1,
      fun indices hok => ?_⟩
    obtain ⟨hm, hindices⟩ := parse_derivation_path_eq_ok.mp hok
    obtain ⟨hroot, hloose⟩ := (h hm).2 (numbers_of_ok hindices)
    obtain ⟨components, hparts, hvalues⟩ := exists_components hloose hindices
    exact ⟨components, isPath_iff.mpr ⟨hroot, hparts⟩, hvalues⟩

/-- Texts that the parser takes for the same indices have the same numbers and the same marks. -/
def Distinguishes (path path' : String) : Prop :=
  ∀ build build' indices, parse_derivation_path build path = .ok indices →
    parse_derivation_path build' path' = .ok indices →
    ∀ components components', IsPath path components → IsPath path' components' →
      components.map (fun c => (c.number, c.hardened)) =
        components'.map (fun c => (c.number, c.hardened))

theorem eq_of_index_eq {components components' : List Component}
    (h : components.map Component.index = components'.map Component.index) :
    components.map (fun c => (c.number, c.hardened)) =
      components'.map (fun c => (c.number, c.hardened)) := by
  induction components generalizing components' with
  | nil => rw [List.map_eq_nil_iff.mp h.symm]
  | cons c components ih =>
    cases components' with
    | nil => cases h
    | cons c' components' =>
      simp only [List.map_cons, List.cons.injEq] at h ⊢
      obtain ⟨hnumber, hhardened⟩ := Component.index_inj h.1
      exact ⟨by rw [hnumber, hhardened], ih h.2⟩

theorem Component.index_text (c : Component) : Path.index c.text = c.index := by
  obtain ⟨n, hn, hvalue⟩ := c.number_text
  unfold Path.index Component.index hardened
  rw [hn, Option.map_some, Option.getD_some, hvalue, c.text_parts.2]
  cases c.mark <;> simp

theorem indices_of_isPath {build : Build} {path : String} {components : List Component}
    {indices : List UInt32} (hpath : IsPath path components)
    (hok : parse_derivation_path build path = .ok indices) :
    indices.map UInt32.toNat = components.map Component.index := by
  have hindices := (parse_derivation_path_eq_ok.mp hok).2
  rw [(isPath_iff.mp hpath).2] at hindices
  have hover : ∀ part ∈ components.map (·.text), ¬ Overflows part := by
    intro part hpart hover
    obtain ⟨c, -, rfl⟩ := List.mem_map.mp hpart
    exact c.not_loose (.inr (.inr hover.2))
  rw [(parse_parts_eq_ok (numbers_of_ok hindices) hover).mp hindices, List.map_map]
  exact List.map_congr_left fun c _ => c.index_text

theorem distinguishes (path path' : String) : Distinguishes path path' := by
  intro build build' indices hok hok' components components' hpath hpath'
  refine eq_of_index_eq ?_
  rw [← indices_of_isPath hpath hok, ← indices_of_isPath hpath' hok']

theorem parse_derivation_path_strict_iff (path path' : String) :
    (StrictAt path ∧ StrictAt path' ∧ Distinguishes path path') ↔ Sound path ∧ Sound path' := by
  rw [strictAt_iff, strictAt_iff]
  exact ⟨fun ⟨h, h', _⟩ => ⟨h, h'⟩, fun ⟨h, h'⟩ => ⟨h, h', distinguishes path path'⟩⟩

theorem parse_derivation_path_not_strict :
    parse_derivation_path ⟨true, false⟩ "m/2147483648'" = .error (.panic .arithmeticOverflow) ∧
      parse_derivation_path ⟨false, false⟩ "m/2147483648'" = .ok [0] ∧
      parse_derivation_path ⟨false, false⟩ "mfoo/+0" = .ok [0] ∧
      ¬ StrictAt "m/2147483648'" := by
  have hpanic : parse_derivation_path ⟨true, false⟩ "m/2147483648'" =
      .error (.panic .arithmeticOverflow) := by decide
  refine ⟨hpanic, by decide, by decide, fun h => ?_⟩
  have hreturns := (h ⟨true, false⟩).1
  rw [hpanic] at hreturns
  exact not_returns_panic _ hreturns

/-! ## The paths that the code builds -/

theorem toList_device_path (n : UInt32) :
    (device_path n).toList = ['m'] ++ '/' :: (['7', '4', apostrophe] ++ '/' :: (['0', apostrophe] ++
      '/' :: (['0', apostrophe] ++ '/' :: (show_number 10 n.toNat ++ [apostrophe])))) := by
  have hnumber : (String.ofList (show_number 10 n.toNat)).toList = show_number 10 n.toNat :=
    String.toList_ofList
  unfold device_path
  rw [String.toList_append, String.toList_append, hnumber]
  rfl

theorem toList_site_password_path (site_hash : String) :
    (site_password_path site_hash).toList = ['m'] ++ '/' :: (['7', '4', apostrophe] ++ '/' ::
      (['1', apostrophe] ++ '/' :: (['0', apostrophe] ++ '/' ::
        (site_hash.toList ++ [apostrophe])))) := by
  unfold site_password_path
  rw [String.toList_append, String.toList_append]
  rfl

/-- The parts of a hash, with the mark that is put behind it. -/
def hash_parts (site_hash : String) : List (List Char) :=
  (site_hash.toList ++ [apostrophe]).splitOn '/'

theorem parts_site_password_path (site_hash : String) :
    parts (site_password_path site_hash) =
      ['7', '4', apostrophe] :: ['1', apostrophe] :: ['0', apostrophe] :: hash_parts site_hash := by
  unfold parts
  rw [toList_site_password_path, splitOn_append_cons (by decide), splitOn_append_cons (by decide),
    splitOn_append_cons (by decide), splitOn_append_cons (by decide)]
  rfl

theorem parts_device_path (n : UInt32) :
    parts (device_path n) =
      [['7', '4', apostrophe], ['0', apostrophe], ['0', apostrophe],
        show_number 10 n.toNat ++ [apostrophe]] := by
  have hdigits := isDecimal_show_number n.toNat
  have hslash : '/' ∉ show_number 10 n.toNat ++ [apostrophe] := by
    intro hmem
    rcases List.mem_append.mp hmem with h | h
    · exact absurd (hdigits.2 '/' h) (by decide)
    · exact absurd (List.mem_singleton.mp h) (by decide)
  unfold parts
  rw [toList_device_path, splitOn_append_cons (by decide), splitOn_append_cons (by decide),
    splitOn_append_cons (by decide), splitOn_append_cons (by decide), splitOn_of_notMem hslash]
  rfl

/-- A number with an apostrophe behind it. -/
def Component.hardened_of (n : Nat) (h : n < 2 ^ 31) : Component :=
  ⟨show_number 10 n, some .apostrophe, isDecimal_show_number n, by rwa [decimal_show_number]⟩

theorem Component.index_hardened_of (n : Nat) (h : n < 2 ^ 31) :
    (hardened_of n h).index = n + 2 ^ 31 := by
  simp [index, hardened_of, number, hardened, decimal_show_number]

theorem parse_of_isPath {path : String} {components : List Component}
    (h : IsPath path components) (build : Build) :
    ∃ indices, parse_derivation_path build path = .ok indices ∧
      indices.map UInt32.toNat = components.map Component.index := by
  have hm : path.toList.head? = some 'm' := by rw [h]; rfl
  have hparts : ∀ part ∈ parts path, (number part).isSome ∧ ¬ Overflows part := by
    rw [(isPath_iff.mp h).2]
    intro part hpart
    obtain ⟨c, -, rfl⟩ := List.mem_map.mp hpart
    obtain ⟨n, hn, -⟩ := c.number_text
    exact ⟨by rw [hn]; rfl, fun hover => c.not_loose (.inr (.inr hover.2))⟩
  obtain ⟨indices, hindices⟩ := exists_parse_parts (fun part hpart => (hparts part hpart).1)
    (fun part hpart => (hparts part hpart).2) build
  have hok := parse_derivation_path_eq_ok.mpr ⟨hm, hindices⟩
  exact ⟨indices, hok, indices_of_isPath h hok⟩

/-! ### Devices -/

theorem isPath_device_path (n : UInt32) (h : n.toNat < 2 ^ 31) :
    IsPath (device_path n)
      [.hardened_of 74 (by decide), .hardened_of 0 (by decide), .hardened_of 0 (by decide),
        .hardened_of n.toNat h] := by
  unfold IsPath
  rw [toList_device_path]
  simp only [List.flatMap_cons, List.flatMap_nil, Component.text, Component.hardened_of,
    Option.map_some, Mark.char, Option.toList_some, List.append_nil]
  rfl

theorem overflows_device_part {n : UInt32} (h : 2 ^ 31 ≤ n.toNat) :
    Overflows (show_number 10 n.toNat ++ [apostrophe]) := by
  have hdecimal := isDecimal_show_number n.toNat
  obtain ⟨hindex, hmarks⟩ := decimal_parts hdecimal (some .apostrophe)
  have hnumber : parse_u32 (show_number 10 n.toNat) = some n :=
    parse_u32_eq_some.mpr ⟨_, .inl rfl, hdecimal, decimal_show_number n.toNat⟩
  refine ⟨?_, n, (congrArg parse_u32 hindex).trans hnumber, h⟩
  rw [show marks (show_number 10 n.toNat ++ [apostrophe]) = [apostrophe] from hmarks]
  simp

/-- The path of the device is accepted in every build, with all indices hardened. -/
def DeviceAccepted (n : UInt32) : Prop :=
  ∀ build, ∃ indices, parse_derivation_path build (device_path n) = .ok indices ∧
    ∀ i ∈ indices, 2 ^ 31 ≤ i.toNat

theorem not_overflows_of_ok {part : List Char} {secp256k1 : Bool} {i : UInt32}
    (h : parse_component ⟨true, secp256k1⟩ part = .ok i) : ¬ Overflows part := by
  have hreturns : Returns (parse_component ⟨true, secp256k1⟩ part) := by
    rw [h]
    exact returns_ok i
  exact (parse_component_returns _ part).mp hreturns rfl

theorem deviceAccepted_iff (n : UInt32) : DeviceAccepted n ↔ n.toNat < 2 ^ 31 := by
  constructor
  · intro h
    by_contra hbig
    obtain ⟨indices, hok, -⟩ := h ⟨true, false⟩
    have hindices := (parse_derivation_path_eq_ok.mp hok).2
    rw [parts_device_path] at hindices
    obtain ⟨i, hi⟩ := each_ok hindices (show_number 10 n.toNat ++ [apostrophe]) (by simp)
    exact not_overflows_of_ok hi (overflows_device_part (by omega))
  · intro hn build
    obtain ⟨indices, hok, hvalues⟩ := parse_of_isPath (isPath_device_path n hn) build
    refine ⟨indices, hok, fun i hi => ?_⟩
    have hmem : i.toNat ∈ indices.map UInt32.toNat := List.mem_map_of_mem hi
    rw [hvalues] at hmem
    simp only [List.map_cons, List.map_nil, Component.index_hardened_of, List.mem_cons,
      List.not_mem_nil, or_false] at hmem
    omega

theorem device_paths_differ {n n' : UInt32} (hn : n.toNat < 2 ^ 31) (hn' : n'.toNat < 2 ^ 31)
    (hne : n ≠ n') (build : Build) :
    parse_derivation_path build (device_path n) ≠ parse_derivation_path build (device_path n') := by
  intro heq
  obtain ⟨indices, hok, hvalues⟩ := parse_of_isPath (isPath_device_path n hn) build
  have hvalues' := indices_of_isPath (isPath_device_path n' hn') (heq ▸ hok)
  rw [hvalues] at hvalues'
  simp only [List.map_cons, List.map_nil, Component.index_hardened_of, List.cons.injEq,
    and_true, true_and] at hvalues'
  exact hne (UInt32.toNat_inj.mp (by omega))

/-! ### Site passwords -/

/-- Each part of the hash is a number that fits. -/
def HashUsable (site_hash : String) : Prop :=
  ∀ part ∈ hash_parts site_hash, (number part).isSome ∧ ¬ Overflows part

/-- Every service that is unlocked, in every build, derives a password at the path. -/
def PasswordAccepted (site_hash : String) : Prop :=
  ∀ (env : Env) (inner : SecretServiceInner) (seed : Seed) (xprv : env.ed25519.XPrv) (length : Nat),
    inner.unlocked = true → inner.seed = some seed → env.ed25519.master seed.bytes = .ok xprv →
    ∃ bytes, SecretServiceInner.derive_password env (site_password_path site_hash) length inner =
      .ok bytes

/-- Both parts stand for the same index. -/
def Alike (part part' : List Char) : Prop :=
  ∃ n n', number part = some n ∧ number part' = some n' ∧
    ((n = n' ∧ (marks part = [] ↔ marks part' = [])) ∨
      (marks part = [] ∧ marks part' ≠ [] ∧ n.toNat = n'.toNat + 2 ^ 31) ∨
      (marks part ≠ [] ∧ marks part' = [] ∧ n'.toNat = n.toNat + 2 ^ 31))

theorem alike_iff {part part' : List Char} (h : (number part).isSome)
    (h' : (number part').isSome) : index part = index part' ↔ Alike part part' := by
  obtain ⟨n, hn⟩ := Option.isSome_iff_exists.mp h
  obtain ⟨n', hn'⟩ := Option.isSome_iff_exists.mp h'
  simp only [index, Alike, hn, hn', Option.map_some, Option.getD_some, Option.some.injEq,
    exists_and_left, exists_eq_left']
  rw [← UInt32.toNat_inj]
  by_cases hmarks : marks part = [] <;> by_cases hmarks' : marks part' = []
  · simp [hmarks, hmarks']
  · simp [hmarks, hmarks']
  · simp [hmarks, hmarks', eq_comm]
  · simp [hmarks, hmarks']

theorem alike_parts_iff {parts parts' : List (List Char)}
    (h : ∀ part ∈ parts, (number part).isSome) (h' : ∀ part ∈ parts', (number part).isSome) :
    parts.map index = parts'.map index ↔ List.Forall₂ Alike parts parts' := by
  induction parts generalizing parts' with
  | nil => cases parts' <;> simp
  | cons part parts ih =>
    cases parts' with
    | nil => simp
    | cons part' parts' =>
      rw [List.forall_mem_cons] at h h'
      rw [List.map_cons, List.map_cons, List.cons.injEq, List.forall₂_cons, alike_iff h.1 h'.1,
        ih h.2 h'.2]

theorem head_site_password_path (site_hash : String) :
    (site_password_path site_hash).toList.head? = some 'm' := by
  rw [toList_site_password_path]
  rfl

theorem usable_fixed_parts :
    ∀ part ∈ [['7', '4', apostrophe], ['1', apostrophe], ['0', apostrophe]],
      (number part).isSome ∧ ¬ Overflows part := by
  have hparts : [['7', '4', apostrophe], ['1', apostrophe], ['0', apostrophe]] =
      [Component.hardened_of 74 (by decide), .hardened_of 1 (by decide),
        .hardened_of 0 (by decide)].map (·.text) := rfl
  rw [hparts]
  intro part hpart
  obtain ⟨c, -, rfl⟩ := List.mem_map.mp hpart
  obtain ⟨n, hn, -⟩ := c.number_text
  exact ⟨by rw [hn]; rfl, fun hover => c.not_loose (.inr (.inr hover.2))⟩

theorem hashUsable_iff (site_hash : String) :
    HashUsable site_hash ↔
      ∀ part ∈ parts (site_password_path site_hash), (number part).isSome ∧ ¬ Overflows part := by
  have hfixed := usable_fixed_parts
  simp only [List.forall_mem_cons] at hfixed
  rw [parts_site_password_path]
  simp only [List.forall_mem_cons, hfixed, true_and, not_false_eq_true]
  rfl

theorem derive_password_eq_ok_iff {env : Env} {inner : SecretServiceInner} {seed : Seed}
    {xprv : env.ed25519.XPrv} (hunlocked : inner.unlocked = true) (hseed : inner.seed = some seed)
    (hmaster : env.ed25519.master seed.bytes = .ok xprv) (path : String) (length : Nat) :
    (∃ bytes, SecretServiceInner.derive_password env path length inner = .ok bytes) ↔
      ∃ indices, parse_derivation_path env.build path = .ok indices := by
  unfold SecretServiceInner.derive_password SecretServiceInner.slip10 derive_path_from_seed
  rw [if_pos hunlocked, hseed]
  cases parse_derivation_path env.build path with
  | error f => simp [Bind.bind, Except.bind]
  | ok indices => simp [Bind.bind, Except.bind, hmaster, ofResult, pure, Except.pure]

/-- Crates that fail on nothing. -/
def lenient_crates (build : Build) : Env where
  build := build
  bip39 := ⟨Unit, fun _ => .ok (), fun _ _ => .ok (), fun _ => "", fun _ _ => .replicate 64 0⟩
  ed25519 := ⟨Unit, fun _ => .ok (), fun _ _ => (), fun _ => .replicate 64 0,
    fun _ => .replicate 64 0, fun _ => .replicate 32 0⟩
  secp := ⟨fun _ => .ok ⟨.replicate 32 0, [], []⟩, fun key _ => .ok key⟩
  cipher := ⟨fun _ _ bytes => .ok bytes, fun _ _ bytes => .ok bytes, fun _ => "", fun _ => .ok [],
    fun _ => ""⟩

theorem passwordAccepted_iff (site_hash : String) :
    PasswordAccepted site_hash ↔ HashUsable site_hash := by
  rw [hashUsable_iff]
  constructor
  · intro h part hpart
    obtain ⟨indices, hok⟩ := (derive_password_eq_ok_iff rfl rfl rfl _ _).mp
      (h (lenient_crates ⟨true, false⟩) ⟨none, some ⟨[]⟩, true, .new ⟨0, 0⟩⟩ ⟨[]⟩ () 0 rfl rfl rfl)
    obtain ⟨i, hi⟩ := each_ok (parse_derivation_path_eq_ok.mp hok).2 part hpart
    exact ⟨number_isSome_of_ok hi, not_overflows_of_ok hi⟩
  · intro h env inner seed xprv length hunlocked hseed hmaster
    obtain ⟨indices, hindices⟩ := exists_parse_parts (fun part hpart => (h part hpart).1)
      (fun part hpart => (h part hpart).2) env.build
    exact (derive_password_eq_ok_iff hunlocked hseed hmaster _ _).mpr
      ⟨indices, parse_derivation_path_eq_ok.mpr ⟨head_site_password_path site_hash, hindices⟩⟩

theorem parse_site_password_path {site_hash : String} (h : HashUsable site_hash) {build : Build}
    {indices : List UInt32} :
    parse_derivation_path build (site_password_path site_hash) = .ok indices ↔
      indices.map UInt32.toNat = (parts (site_password_path site_hash)).map index := by
  rw [hashUsable_iff] at h
  rw [parse_derivation_path_eq_ok, parse_parts_eq_ok (fun part hpart => (h part hpart).1)
    fun part hpart => (h part hpart).2]
  simp [head_site_password_path]

theorem site_password_paths_eq_iff {site_hash site_hash' : String} (h : HashUsable site_hash)
    (h' : HashUsable site_hash') (build : Build) :
    parse_derivation_path build (site_password_path site_hash) =
        parse_derivation_path build (site_password_path site_hash') ↔
      List.Forall₂ Alike (hash_parts site_hash) (hash_parts site_hash') := by
  have hparts : ∀ hash, (parts (site_password_path hash)).map index =
      [['7', '4', apostrophe], ['1', apostrophe], ['0', apostrophe]].map index ++
        (hash_parts hash).map index := fun hash => by
    rw [parts_site_password_path]
    rfl
  rw [← alike_parts_iff (fun part hpart => (h part hpart).1) fun part hpart => (h' part hpart).1]
  have hfits := (hashUsable_iff site_hash).mp h
  obtain ⟨indices, hindices⟩ := exists_parse_parts (fun part hpart => (hfits part hpart).1)
    (fun part hpart => (hfits part hpart).2) build
  have hok := parse_derivation_path_eq_ok.mpr ⟨head_site_password_path site_hash, hindices⟩
  rw [hok, eq_comm, parse_site_password_path h', (parse_site_password_path h).mp hok, hparts,
    hparts, List.append_cancel_left_eq]

theorem path_constructors_iff (n n' : UInt32) (site_hash site_hash' : String) :
    ((DeviceAccepted n ∧ DeviceAccepted n' ∧ (n ≠ n' → ∀ build,
        parse_derivation_path build (device_path n) ≠
          parse_derivation_path build (device_path n'))) ∧
      PasswordAccepted site_hash ∧ PasswordAccepted site_hash' ∧
        (site_hash ≠ site_hash' → ∀ build,
          parse_derivation_path build (site_password_path site_hash) ≠
            parse_derivation_path build (site_password_path site_hash'))) ↔
    (n.toNat < 2 ^ 31 ∧ n'.toNat < 2 ^ 31) ∧
      HashUsable site_hash ∧ HashUsable site_hash' ∧ (site_hash ≠ site_hash' →
        ¬ List.Forall₂ Alike (hash_parts site_hash) (hash_parts site_hash')) := by
  refine and_congr ?_ ?_
  · rw [deviceAccepted_iff, deviceAccepted_iff]
    exact ⟨fun ⟨hn, hn', _⟩ => ⟨hn, hn'⟩,
      fun ⟨hn, hn'⟩ => ⟨hn, hn', device_paths_differ hn hn'⟩⟩
  · rw [passwordAccepted_iff, passwordAccepted_iff]
    refine and_congr_right fun h => and_congr_right fun h' => imp_congr_right fun _ => ?_
    simp only [ne_eq, site_password_paths_eq_iff h h']
    exact ⟨fun hdiffer => hdiffer ⟨false, false⟩, fun hdiffer _ => hdiffer⟩

theorem path_constructors_not_usable :
    parse_derivation_path ⟨false, false⟩ (device_path 2147483648) =
        parse_derivation_path ⟨false, false⟩ "m/74'/0'/0'/0" ∧
      ¬ DeviceAccepted 2147483648 ∧ ¬ PasswordAccepted "abc123" := by
  refine ⟨by decide, ?_, ?_⟩
  · rw [deviceAccepted_iff]
    decide
  · rw [passwordAccepted_iff]
    intro h
    have hnumber := (h ['a', 'b', 'c', '1', '2', '3', apostrophe] (by decide)).1
    revert hnumber
    decide

/-! ## Every list of indices has a path -/

/-- The number of the index, with the mark behind it if the index is hardened. -/
def write_index (index : UInt32) (mark : Mark) : List Char :=
  if index.toNat < 2 ^ 31 then show_number 10 index.toNat
  else show_number 10 (index.toNat - 2 ^ 31) ++ [mark.char]

/-- The mark of an index below `2^31` is not written. -/
def write_path (indices : List (UInt32 × Mark)) : String :=
  String.ofList ('m' :: indices.flatMap fun i => '/' :: write_index i.1 i.2)

theorem exists_component_of_index (index : UInt32) (mark : Mark) :
    ∃ c : Component, c.text = write_index index mark ∧ c.index = index.toNat := by
  have hindex := index.toNat_lt
  unfold write_index
  split
  · next hlow =>
    refine ⟨⟨show_number 10 index.toNat, none, isDecimal_show_number _, ?_⟩, ?_, ?_⟩
    · rwa [decimal_show_number]
    · simp [Component.text]
    · simp [Component.index, Component.number, Component.hardened, decimal_show_number]
  · refine ⟨⟨show_number 10 (index.toNat - 2 ^ 31), some mark, isDecimal_show_number _, ?_⟩, ?_, ?_⟩
    · rw [decimal_show_number]
      omega
    · simp [Component.text]
    · simp only [Component.index, Component.number, Component.hardened, decimal_show_number,
        Option.isSome_some, if_true]
      omega

theorem exists_isPath_write_path (indices : List (UInt32 × Mark)) :
    ∃ components, IsPath (write_path indices) components ∧
      components.map Component.index = indices.map (·.1.toNat) := by
  unfold IsPath write_path
  rw [String.toList_ofList]
  induction indices with
  | nil => exact ⟨[], rfl, rfl⟩
  | cons i indices ih =>
    obtain ⟨components, hpath, hvalues⟩ := ih
    obtain ⟨c, htext, hvalue⟩ := exists_component_of_index i.1 i.2
    refine ⟨c :: components, ?_, ?_⟩
    · rw [List.flatMap_cons, List.flatMap_cons, htext, (List.cons.inj hpath).2]
    · rw [List.map_cons, List.map_cons, hvalue, hvalues]

theorem parse_write_path (build : Build) (indices : List (UInt32 × Mark)) :
    parse_derivation_path build (write_path indices) = .ok (indices.map Prod.fst) := by
  obtain ⟨components, hpath, hvalues⟩ := exists_isPath_write_path indices
  obtain ⟨parsed, hok, hparsed⟩ := parse_of_isPath hpath build
  have hsame : parsed.map UInt32.toNat = (indices.map Prod.fst).map UInt32.toNat := by
    rw [hparsed, hvalues, List.map_map]
    rfl
  rw [hok, List.map_injective_iff.mpr (fun _ _ => UInt32.toNat_inj.mp) hsame]

example :
    write_path [(2147483692, .apostrophe), (2147483708, .h), (0, .h)] = "m/44'/60h/0" := by decide

end Alknet.Secret.Path
