import Alknet.Rust.Net
import Mathlib.Tactic

/-!
# What the address parser accepts

`Reads r Q` says what a reader consumed: the text before the rest satisfies `Q` at the value read.
An IPv4 address is read from its own text only. An IPv6 address has many spellings, and of those
only the characters are said here.
-/

open Alknet.Lib.Numeral

namespace Alknet.Rust

/-! ## Readers -/

def Reads {α : Type} (inner : List Char → Option (α × List Char)) (Q : List Char → α → Prop) :
    Prop :=
  ∀ s a rest, inner s = some (a, rest) → ∃ text, s = text ++ rest ∧ Q text a

theorem read_given_char_eq {target : Char} {s rest : List Char}
    (h : read_given_char target s = some rest) : s = target :: rest := by
  cases s with
  | nil => simp [read_given_char] at h
  | cons c cs =>
    simp only [read_given_char] at h
    split at h
    · rename_i hc
      rw [hc, Option.some.inj h]
    · simp at h

theorem read_separator_reads {α : Type} {sep : Char} {index : Nat}
    {inner : List Char → Option (α × List Char)} {Q : List Char → α → Prop} (h : Reads inner Q) :
    Reads (read_separator sep index inner)
      (fun text a => ∃ t, text = (if 0 < index then [sep] else []) ++ t ∧ Q t a) := by
  intro s a rest hs
  unfold read_separator at hs
  split at hs
  · rename_i hi
    obtain ⟨s', hsep, hinner⟩ := Option.bind_eq_some_iff.mp hs
    obtain ⟨t, rfl, ht⟩ := h _ _ _ hinner
    rw [read_given_char_eq hsep]
    exact ⟨sep :: t, rfl, t, by rw [if_pos hi]; rfl, ht⟩
  · rename_i hi
    obtain ⟨t, rfl, ht⟩ := h _ _ _ hs
    exact ⟨t, rfl, t, by rw [if_neg hi]; rfl, ht⟩

/-! ## Digits -/

theorem to_digit_digit_char :
    ∀ radix ∈ [10, 16], ∀ d < radix, to_digit radix (digit_char d) = some d := by
  decide

theorem to_digit_lt {radix d : Nat} {c : Char} (h : to_digit radix c = some d) : d < radix := by
  unfold to_digit at h
  simpa using (Option.filter_eq_some_iff.mp h).2

theorem digit_char_of_to_digit {d : Nat} {c : Char} (h : to_digit 10 c = some d) :
    c = digit_char d := by
  have hd := to_digit_lt h
  unfold to_digit at h
  have h := (Option.filter_eq_some_iff.mp h).1
  split at h
  · rename_i hc
    have hlo : 48 ≤ c.toNat := hc.1
    have hsub : c.toNat - 48 = d := Option.some.inj h
    have heq : 48 + d = c.toNat := by omega
    rw [digit_char, if_pos hd, show '0'.toNat = 48 from rfl, heq, Char.ofNat_toNat]
  -- a letter is no decimal digit
  · split at h
    · have := Option.some.inj h
      omega
    · split at h
      · have := Option.some.inj h
        omega
      · simp at h

theorem read_digits_spec (radix : Nat) (s : List Char) :
    ∃ text, s = text ++ (read_digits radix s).2 ∧
      text.map (to_digit radix) = (read_digits radix s).1.map some := by
  induction s with
  | nil => exact ⟨[], rfl, rfl⟩
  | cons c cs ih =>
    obtain ⟨text, hs, ht⟩ := ih
    cases hc : to_digit radix c with
    | none => exact ⟨[], by simp [read_digits, hc], by simp [read_digits, hc]⟩
    | some d =>
      refine ⟨c :: text, ?_, ?_⟩
      · simp only [read_digits, hc, List.cons_append, ← hs]
      · simp only [read_digits, hc, List.map_cons, ht]

theorem read_number_reads (radix bound : Nat) (max_digits : Option Nat)
    (allow_leading_zero : Bool) :
    Reads (read_number radix bound max_digits allow_leading_zero) fun text n =>
      ∃ ds, text.map (to_digit radix) = ds.map some ∧ ds ≠ [] ∧ n = value radix ds ∧ n < bound ∧
        (allow_leading_zero = false → NoLeadingZero ds) := by
  intro s n rest h
  obtain ⟨text, hs, ht⟩ := read_digits_spec radix s
  unfold read_number at h
  simp only at h
  split_ifs at h with hlen hmax hlead hbound
  simp only [Option.some.injEq, Prod.mk.injEq] at h
  obtain ⟨hn, hrest⟩ := h
  refine ⟨text, hrest ▸ hs, _, ht, ?_, hn.symm, hn ▸ hbound, ?_⟩
  · simpa [List.length_eq_zero_iff] using hlen
  · intro hzero h1 h0
    rw [hzero] at hlead
    simp [h0] at hlead
    omega

theorem digits_eq_of_map {ds ds' : List Nat} (h : ds.map some = ds'.map some) : ds = ds' :=
  List.map_injective_iff.mpr (Option.some_injective _) h

theorem map_to_digit_show {radix : Nat} (hr : radix ∈ [10, 16]) (n : Nat) :
    (show_number radix n).map (to_digit radix) = (numeral radix n).map some := by
  have hb : 1 < radix := by
    simp only [List.mem_cons, List.not_mem_nil, or_false] at hr
    omega
  rw [show_number, List.map_map]
  apply List.map_congr_left
  intro d hd
  exact to_digit_digit_char radix hr d (numeral_lt hb hd)

theorem text_eq_show {text : List Char} {ds : List Nat}
    (ht : text.map (to_digit 10) = ds.map some) (hne : ds ≠ []) (hlead : NoLeadingZero ds) :
    text = show_number 10 (value 10 ds) := by
  have hlt : ∀ d ∈ ds, d < 10 := by
    intro d hd
    have : some d ∈ text.map (to_digit 10) := by
      rw [ht]
      exact List.mem_map_of_mem hd
    obtain ⟨c, -, hc⟩ := List.mem_map.mp this
    exact to_digit_lt hc
  have htext : text = ds.map digit_char := by
    have hlen : text.length = ds.length := by simpa using congrArg List.length ht
    apply List.ext_getElem (by simpa using hlen)
    intro i h₁ h₂
    have hi : to_digit 10 text[i] = some (ds[i]) := by
      have := congrArg (fun l => l[i]?) ht
      simpa [h₁, hlen ▸ h₁] using this
    rw [List.getElem_map]
    exact digit_char_of_to_digit hi
  rw [show_number, numeral_value (by decide) hne hlt hlead, htext]

/-! ## IPv4 -/

theorem read_octet_reads (index : Nat) :
    Reads (read_octet index) fun text octet =>
      text = (if 0 < index then ['.'] else []) ++ show_number 10 octet.toNat := by
  have hnum : Reads
      (fun s => (read_number 10 256 (some 3) false s).map (Prod.map UInt8.ofNat id))
      fun text octet => text = show_number 10 octet.toNat := by
    intro s octet rest h
    obtain ⟨⟨n, rest'⟩, hn, he⟩ := Option.map_eq_some_iff.mp h
    obtain ⟨text, hs, ds, hds, hne, hv, hlt, hlead⟩ := read_number_reads _ _ _ _ _ _ _ hn
    simp only [Prod.map, id, Prod.mk.injEq] at he
    obtain ⟨rfl, rfl⟩ := he
    refine ⟨text, hs, ?_⟩
    have hoctet : (UInt8.ofNat n).toNat = n := by
      rw [UInt8.toNat_ofNat', Nat.mod_eq_of_lt hlt]
    show text = show_number 10 (UInt8.ofNat n).toNat
    rw [hoctet, hv]
    exact text_eq_show hds hne (hlead rfl)
  intro s octet rest h
  obtain ⟨text, hs, t, ht, hq⟩ := read_separator_reads hnum _ _ _ h
  exact ⟨text, hs, by rw [ht, hq]⟩

/-- **IPv4 has one spelling.** -/
theorem read_ipv4_addr_reads : Reads read_ipv4_addr fun text addr => text = addr.to_chars := by
  intro s addr rest h
  simp only [read_ipv4_addr, Option.bind_eq_bind, Option.bind_eq_some_iff, Option.pure_def,
    Option.some.injEq, Prod.mk.injEq, Prod.exists] at h
  obtain ⟨a, s₁, ha, b, s₂, hb, c, s₃, hc, d, s₄, hd, rfl, rfl⟩ := h
  obtain ⟨_, rfl, rfl⟩ := read_octet_reads 0 _ _ _ ha
  obtain ⟨_, rfl, rfl⟩ := read_octet_reads 1 _ _ _ hb
  obtain ⟨_, rfl, rfl⟩ := read_octet_reads 2 _ _ _ hc
  obtain ⟨_, rfl, rfl⟩ := read_octet_reads 3 _ _ _ hd
  refine ⟨_, ?_, rfl⟩
  simp [Ipv4Addr.to_chars]
  rfl

/-! ## Reading back what was written -/

theorem read_digits_append {radix : Nat} {text rest : List Char} {ds : List Nat}
    (ht : text.map (to_digit radix) = ds.map some)
    (hrest : ∀ c, rest.head? = some c → to_digit radix c = none) :
    read_digits radix (text ++ rest) = (ds, rest) := by
  induction text generalizing ds with
  | nil =>
    obtain rfl : ds = [] := by simpa using ht.symm
    cases rest with
    | nil => rfl
    | cons c rest => simp [read_digits, hrest c rfl]
  | cons c text ih =>
    cases ds with
    | nil => simp at ht
    | cons d ds =>
      simp only [List.map_cons, List.cons.injEq] at ht
      simp [read_digits, ht.1, ih ht.2]

theorem read_octet_show (index : Nat) (octet : UInt8) {rest : List Char}
    (hrest : ∀ c, rest.head? = some c → to_digit 10 c = none) :
    read_octet index
      ((if 0 < index then ['.'] else []) ++ (show_number 10 octet.toNat ++ rest)) =
        some (octet, rest) := by
  have hlt : octet.toNat < 256 := octet.toNat_lt
  have hnum : read_number 10 256 (some 3) false (show_number 10 octet.toNat ++ rest) =
      some (octet.toNat, rest) := by
    have hlen : (numeral 10 octet.toNat).length ≤ 3 :=
      numeral_length_le (by decide) (by decide) (by omega)
    have hlead := numeral_noLeadingZero 10 octet.toNat
    have hzero : ¬ ((numeral 10 octet.toNat).head? = some 0 ∧
        1 < (numeral 10 octet.toNat).length) := fun h => hlead h.2 h.1
    unfold read_number
    rw [read_digits_append (map_to_digit_show (by decide) _) hrest]
    simp only [value_numeral, List.length_eq_zero_iff, numeral_ne_nil, if_false, hlt, if_true]
    rw [if_neg (by simpa using hlen), if_neg (by simpa using hzero)]
  unfold read_octet read_separator
  split <;> simp [read_given_char, hnum]

theorem ipv4_of_octets (addr : Ipv4Addr) :
    addr = ⟨addr.octets.get 0 ::ᵥ addr.octets.get 1 ::ᵥ addr.octets.get 2 ::ᵥ
      addr.octets.get 3 ::ᵥ .nil⟩ :=
  match addr with
  | ⟨⟨[_, _, _, _], _⟩⟩ => rfl

theorem read_ipv4_addr_show (addr : Ipv4Addr) {rest : List Char}
    (hrest : ∀ c, rest.head? = some c → to_digit 10 c = none) :
    read_ipv4_addr (addr.to_chars ++ rest) = some (addr, rest) := by
  have hdot : ∀ (t : List Char) c, ('.' :: t).head? = some c → to_digit 10 c = none := by
    intro t c hc
    obtain rfl : '.' = c := by simpa using hc
    decide
  have h₀ := fun t => read_octet_show 0 (addr.octets.get 0) (hdot t)
  have h₁ := fun t => read_octet_show 1 (addr.octets.get 1) (hdot t)
  have h₂ := fun t => read_octet_show 2 (addr.octets.get 2) (hdot t)
  have h₃ := read_octet_show 3 (addr.octets.get 3) hrest
  simp only [Nat.lt_irrefl, if_false, List.nil_append, if_true, List.cons_append,
    Nat.zero_lt_succ] at h₀ h₁ h₂ h₃
  simp only [read_ipv4_addr, Ipv4Addr.to_chars, List.append_assoc, List.cons_append, h₀, h₁, h₂,
    h₃, Option.bind_eq_bind, Option.bind_some]
  rw [← ipv4_of_octets]
  rfl

/-! ## The characters of an address -/

def addr_char (c : Char) : Bool := (to_digit 16 c).isSome || c == ':' || c == '.'

theorem addr_char_of_to_digit {radix : Nat} (hr : radix ∈ [10, 16]) {c : Char}
    (h : (to_digit radix c).isSome) : addr_char c := by
  obtain ⟨d, hd⟩ := Option.isSome_iff_exists.mp h
  unfold to_digit at hd
  obtain ⟨hd, hlt⟩ := Option.filter_eq_some_iff.mp hd
  have hlt : d < 16 := by
    simp only [List.mem_cons, List.not_mem_nil, or_false] at hr
    simp only [decide_eq_true_eq] at hlt
    omega
  have : to_digit 16 c = some d := by
    unfold to_digit
    exact Option.filter_eq_some_iff.mpr ⟨hd, by simpa using hlt⟩
  simp [addr_char, this]

theorem all_addr_char_of_digits {radix : Nat} (hr : radix ∈ [10, 16]) {text : List Char}
    {ds : List Nat} (h : text.map (to_digit radix) = ds.map some) : text.all addr_char := by
  rw [List.all_eq_true]
  intro c hc
  apply addr_char_of_to_digit hr
  have hmem : to_digit radix c ∈ ds.map some := h ▸ List.mem_map_of_mem hc
  obtain ⟨d, -, hd⟩ := List.mem_map.mp hmem
  rw [← hd]
  rfl

/-- Characters of an address, the last of them no dot. -/
structure AddrText (text : List Char) : Prop where
  all : text.all addr_char
  last : text.getLast? ≠ some '.'

theorem AddrText.append {text text' : List Char} (h : AddrText text) (h' : AddrText text') :
    AddrText (text ++ text') where
  all := by rw [List.all_append, h.all, h'.all]; rfl
  last := by
    rw [List.getLast?_append]
    cases hlast : text'.getLast? with
    | none => exact h.last
    | some c =>
      rw [Option.some_or, ← hlast]
      exact h'.last

theorem addrText_of_digits {radix : Nat} (hr : radix ∈ [10, 16]) {text : List Char}
    {ds : List Nat} (h : text.map (to_digit radix) = ds.map some) : AddrText text where
  all := all_addr_char_of_digits hr h
  last := by
    intro hlast
    have hmem : to_digit radix '.' ∈ ds.map some := by
      rw [← h]
      exact List.mem_map_of_mem (List.mem_of_getLast? hlast)
    have hdot : ∀ radix ∈ [10, 16], to_digit radix '.' = none := by decide
    rw [hdot radix hr] at hmem
    simp at hmem

theorem show_number_all {radix : Nat} (hr : radix ∈ [10, 16]) (n : Nat) :
    (show_number radix n).all addr_char :=
  all_addr_char_of_digits hr (map_to_digit_show hr n)

theorem Ipv4Addr.to_chars_all (addr : Ipv4Addr) : addr.to_chars.all addr_char := by
  have hdot : addr_char '.' = true := by decide
  have hnum : ∀ n, (show_number 10 n).all addr_char = true := show_number_all (by decide)
  simp [Ipv4Addr.to_chars, hdot, hnum]

theorem fmt_subslice_all (segments : List UInt16) : (fmt_subslice segments).all addr_char := by
  have hcolon : addr_char ':' = true := by decide
  have hnum : ∀ n, (show_number 16 n).all addr_char = true := show_number_all (by decide)
  cases segments with
  | nil => rfl
  | cons first tail =>
    rw [fmt_subslice, List.all_append, hnum, Bool.true_and, List.all_flatMap, List.all_eq_true]
    intro segment _
    simp [hcolon, hnum]

theorem Ipv6Addr.to_chars_all (addr : Ipv6Addr) : addr.to_chars.all addr_char := by
  unfold Ipv6Addr.to_chars
  split
  · rename_i ipv4 _
    rw [List.all_append, ipv4.to_chars_all]
    decide
  · simp only
    split
    · rw [List.all_append, List.all_append, fmt_subslice_all, fmt_subslice_all]
      decide
    · exact fmt_subslice_all _

theorem IpAddr.to_chars_all (ip : IpAddr) : ip.to_chars.all addr_char := by
  cases ip with
  | V4 addr => exact addr.to_chars_all
  | V6 addr => exact addr.to_chars_all

/-! ## IPv6 -/

theorem addrText_colon : AddrText [':'] := ⟨by decide, by decide⟩

theorem Ipv4Addr.addrText (addr : Ipv4Addr) : AddrText addr.to_chars where
  all := addr.to_chars_all
  last := by
    have hdigits : (show_number 10 (addr.octets.get 3).toNat).map (to_digit 10) = _ :=
      map_to_digit_show (by decide) _
    have hlast := (addrText_of_digits (by decide) hdigits).last
    have hne : show_number 10 (addr.octets.get 3).toNat ≠ [] := by
      rw [show_number, Ne, List.map_eq_nil_iff]
      exact numeral_ne_nil _ _
    obtain ⟨c, hc⟩ := Option.ne_none_iff_exists'.mp (mt List.getLast?_eq_none_iff.mp hne)
    simp only [Ipv4Addr.to_chars, List.getLast?_append, List.getLast?_cons, hc] at hlast ⊢
    simpa using hlast

theorem read_group_reads (index : Nat) :
    Reads (read_group index) fun text _ => AddrText text := by
  have hnum : Reads
      (fun s => (read_number 16 65536 (some 4) true s).map (Prod.map UInt16.ofNat id))
      fun text _ => AddrText text := by
    intro s group rest h
    obtain ⟨⟨n, rest'⟩, hn, he⟩ := Option.map_eq_some_iff.mp h
    obtain ⟨text, hs, ds, hds, -⟩ := read_number_reads _ _ _ _ _ _ _ hn
    simp only [Prod.map, id, Prod.mk.injEq] at he
    exact ⟨text, he.2 ▸ hs, addrText_of_digits (by decide) hds⟩
  intro s group rest h
  obtain ⟨text, hs, t, rfl, ht⟩ := read_separator_reads hnum _ _ _ h
  refine ⟨_, hs, ?_⟩
  split
  · exact addrText_colon.append ht
  · exact ht

theorem read_groups_ipv4 {room index : Nat} {s rest : List Char} {addr : Ipv4Addr}
    (hroom : 0 < room) (h : read_separator ':' index read_ipv4_addr s = some (addr, rest)) :
    read_groups (room + 1) index s = (addr.groups, true, rest) := by
  rw [read_groups, if_pos hroom, h]

theorem read_groups_group {room index : Nat} {s rest : List Char} {group : UInt16}
    (hipv4 : read_separator ':' index read_ipv4_addr s = none)
    (h : read_group index s = some (group, rest)) :
    read_groups (room + 1) index s =
      (group :: (read_groups room (index + 1) rest).1, (read_groups room (index + 1) rest).2) := by
  rw [read_groups, hipv4, h]
  simp

theorem read_groups_none {room index : Nat} {s : List Char}
    (hipv4 : read_separator ':' index read_ipv4_addr s = none) (h : read_group index s = none) :
    read_groups (room + 1) index s = ([], false, s) := by
  rw [read_groups, hipv4, h]
  simp

theorem read_groups_spec (room index : Nat) (s : List Char) :
    ∃ text, s = text ++ (read_groups room index s).2.2 ∧ AddrText text := by
  have hnothing : AddrText [] := ⟨rfl, by decide⟩
  induction room generalizing index s with
  | zero => exact ⟨[], rfl, hnothing⟩
  | succ room ih =>
    unfold read_groups
    split
    -- an IPv4 address ends the groups
    · rename_i addr rest h
      split_ifs at h
      obtain ⟨text, hs, t, rfl, rfl⟩ := read_separator_reads read_ipv4_addr_reads _ _ _ h
      refine ⟨_, hs, ?_⟩
      split
      · exact addrText_colon.append addr.addrText
      · exact addr.addrText
    · split
      · rename_i group rest hgroup
        obtain ⟨text, rfl, htext⟩ := read_group_reads index _ _ _ hgroup
        obtain ⟨text', hs, htext'⟩ := ih (index + 1) rest
        refine ⟨text ++ text', ?_, htext.append htext'⟩
        simp only
        rw [List.append_assoc, ← hs]
      · exact ⟨[], rfl, hnothing⟩

theorem read_ipv6_addr_reads : Reads read_ipv6_addr fun text _ => AddrText text := by
  intro s addr rest h
  obtain ⟨text, hs, htext⟩ := read_groups_spec 8 0 s
  unfold read_ipv6_addr at h
  simp only at h
  split at h
  · simp only [Option.some.injEq, Prod.mk.injEq] at h
    exact ⟨text, h.2 ▸ hs, htext⟩
  split at h
  · simp at h
  · simp only [Option.bind_eq_bind, Option.bind_eq_some_iff, Option.pure_def, Option.some.injEq,
      Prod.mk.injEq] at h
    obtain ⟨s₁, h₁, s₂, h₂, -, hrest⟩ := h
    obtain ⟨text', hs', htext'⟩ :=
      read_groups_spec (8 - ((read_groups 8 0 s).1.length + 1)) 0 s₂
    refine ⟨text ++ ':' :: ':' :: text', ?_, ?_⟩
    · rw [hrest] at hs'
      rw [hs, read_given_char_eq h₁, read_given_char_eq h₂, hs']
      simp
    · exact htext.append (addrText_colon.append (addrText_colon.append htext'))

/-! ## The whole text -/

theorem parse_with_eq_some {α : Type} {inner : List Char → Option (α × List Char)} {s : String}
    {a : α} : parse_with inner s = some a ↔ inner s.toList = some (a, []) := by
  unfold parse_with
  split
  · rename_i a' h
    simp [h]
  · rename_i h
    simpa using fun h' => h a h'

theorem reads_all {α : Type} {inner : List Char → Option (α × List Char)}
    {Q : List Char → α → Prop} (hr : Reads inner Q) {s : String} {a : α}
    (h : parse_with inner s = some a) : Q s.toList a := by
  obtain ⟨text, hs, hq⟩ := hr _ _ _ (parse_with_eq_some.mp h)
  rw [List.append_nil] at hs
  exact hs ▸ hq

theorem ip_addr_v4 {s : String} {addr : Ipv4Addr} (h : IpAddr.from_str s = some (.V4 addr)) :
    read_ipv4_addr s.toList = some (addr, []) := by
  rcases Option.or_eq_some_iff.mp (parse_with_eq_some.mp h) with h | ⟨-, h⟩
  all_goals
    obtain ⟨⟨a, rest⟩, ha, he⟩ := Option.map_eq_some_iff.mp h
    simp only [Prod.map, id, Prod.mk.injEq, IpAddr.V4.injEq, reduceCtorEq, false_and] at he
  obtain ⟨rfl, rfl⟩ := he
  exact ha

theorem ip_addr_v6 {s : String} {addr : Ipv6Addr} (h : IpAddr.from_str s = some (.V6 addr)) :
    read_ipv4_addr s.toList = none ∧ read_ipv6_addr s.toList = some (addr, []) := by
  rcases Option.or_eq_some_iff.mp (parse_with_eq_some.mp h) with h | ⟨hnone, h⟩
  all_goals
    obtain ⟨⟨a, rest⟩, ha, he⟩ := Option.map_eq_some_iff.mp h
    simp only [Prod.map, id, Prod.mk.injEq, IpAddr.V6.injEq, reduceCtorEq, false_and] at he
  obtain ⟨rfl, rfl⟩ := he
  exact ⟨Option.map_eq_none_iff.mp hnone, ha⟩

theorem IpAddr.from_str_text {s : String} {ip : IpAddr} (h : IpAddr.from_str s = some ip) :
    AddrText s.toList := by
  cases ip with
  | V4 addr =>
    rw [reads_all read_ipv4_addr_reads (parse_with_eq_some.mpr (ip_addr_v4 h))]
    exact addr.addrText
  | V6 addr => exact reads_all read_ipv6_addr_reads (parse_with_eq_some.mpr (ip_addr_v6 h).2)

/-! ## Socket addresses -/

theorem read_port_reads : Reads read_port fun text port =>
    ∃ t ds, text = ':' :: t ∧ t.map (to_digit 10) = ds.map some ∧ port.toNat = value 10 ds := by
  intro s port rest h
  simp only [read_port, Option.bind_eq_bind, Option.bind_eq_some_iff, Option.pure_def,
    Option.some.injEq, Prod.mk.injEq, Prod.exists] at h
  obtain ⟨s', hcolon, n, rest', hn, rfl, rfl⟩ := h
  obtain ⟨t, rfl, ds, hds, -, hv, hlt, -⟩ := read_number_reads _ _ _ _ _ _ _ hn
  refine ⟨':' :: t, by rw [read_given_char_eq hcolon]; rfl, t, ds, rfl, hds, ?_⟩
  rw [UInt16.toNat_ofNat', Nat.mod_eq_of_lt hlt, hv]

theorem read_scope_id_suffix (s : List Char) :
    ∃ text, s = text ++ ((read_scope_id s).getD (0, s)).2 := by
  cases h : read_scope_id s with
  | none => exact ⟨[], rfl⟩
  | some r =>
    obtain ⟨scope_id, rest⟩ := r
    simp only [read_scope_id, Option.bind_eq_bind, Option.bind_eq_some_iff, Option.pure_def,
      Option.some.injEq, Prod.mk.injEq, Prod.exists] at h
    obtain ⟨s', hpercent, n, rest', hn, -, rfl⟩ := h
    obtain ⟨t, rfl, -⟩ := read_number_reads _ _ _ _ _ _ _ hn
    exact ⟨'%' :: t, by rw [read_given_char_eq hpercent]; rfl⟩

theorem read_socket_addr_reads : Reads read_socket_addr fun text addr =>
    ∃ host t ds, text = host ++ ':' :: t ∧ t.map (to_digit 10) = ds.map some ∧
      addr.port.toNat = value 10 ds ∧
      ((∃ a, addr.ip = .V4 a ∧ host = a.to_chars) ∨
        (∃ a, addr.ip = .V6 a ∧ host.head? = some '[')) := by
  intro s addr rest h
  rcases Option.or_eq_some_iff.mp h with h | ⟨-, h⟩
  · simp only [read_socket_addr_v4, Option.bind_eq_bind, Option.bind_eq_some_iff,
      Option.pure_def, Option.some.injEq, Prod.mk.injEq, Prod.exists] at h
    obtain ⟨ip, s₁, hip, port, s₂, hport, rfl, rfl⟩ := h
    obtain ⟨_, rfl, rfl⟩ := read_ipv4_addr_reads _ _ _ hip
    obtain ⟨_, rfl, t, ds, rfl, hds, hv⟩ := read_port_reads _ _ _ hport
    exact ⟨ip.to_chars ++ ':' :: t, by simp, _, t, ds, rfl, hds, hv, Or.inl ⟨ip, rfl, rfl⟩⟩
  · simp only [read_socket_addr_v6, Option.bind_eq_bind, Option.bind_eq_some_iff,
      Option.pure_def, Option.some.injEq, Prod.mk.injEq, Prod.exists] at h
    obtain ⟨s₁, hopen, ip, s₂, hip, s₃, hclose, port, s₄, hport, rfl, rfl⟩ := h
    obtain ⟨text, rfl, -⟩ := read_ipv6_addr_reads _ _ _ hip
    obtain ⟨scope, hscope⟩ := read_scope_id_suffix s₂
    obtain ⟨_, rfl, t, ds, rfl, hds, hv⟩ := read_port_reads _ _ _ hport
    refine ⟨'[' :: (text ++ scope ++ [']']) ++ ':' :: t, ?_, _, t, ds, rfl, hds, hv,
      Or.inr ⟨ip, rfl, rfl⟩⟩
    rw [read_given_char_eq hclose] at hscope
    rw [read_given_char_eq hopen, hscope]
    simp

theorem read_port_show (port : UInt16) :
    read_port (':' :: show_number 10 port.toNat) = some (port, []) := by
  have hdigits : read_digits 10 (show_number 10 port.toNat) = (numeral 10 port.toNat, []) := by
    have happend : read_digits 10 (show_number 10 port.toNat ++ []) =
        (numeral 10 port.toNat, []) :=
      read_digits_append (map_to_digit_show (by decide) port.toNat) (by simp)
    rwa [List.append_nil] at happend
  have hnum : read_number 10 65536 none true (show_number 10 port.toNat) =
      some (port.toNat, []) := by
    unfold read_number
    rw [hdigits]
    simp only [value_numeral, List.length_eq_zero_iff, numeral_ne_nil, if_false]
    simpa using port.toNat_lt
  simp [read_port, read_given_char, hnum]

theorem SocketAddr.from_str_v4 (addr : Ipv4Addr) (port : UInt16) :
    SocketAddr.from_str (String.ofList (addr.to_chars ++ ':' :: show_number 10 port.toNat)) =
      some ⟨.V4 addr, port, 0⟩ := by
  have hcolon : ∀ c, (':' :: show_number 10 port.toNat).head? = some c →
      to_digit 10 c = none := by
    intro c hc
    obtain rfl : ':' = c := by simpa using hc
    decide
  have hip := read_ipv4_addr_show addr hcolon
  have hread : read_socket_addr (addr.to_chars ++ ':' :: show_number 10 port.toNat) =
      some (⟨.V4 addr, port, 0⟩, []) := by
    simp [read_socket_addr, read_socket_addr_v4, hip, read_port_show]
  rw [from_str, parse_with, String.toList_ofList, hread]

theorem SocketAddr.from_str_bare {ip : IpAddr} {text : List Char} {read : SocketAddr}
    (h : SocketAddr.from_str (String.ofList (ip.to_chars ++ ':' :: text)) = some read) :
    ∃ addr, read.ip = .V4 addr := by
  rw [from_str, parse_with, String.toList_ofList] at h
  split at h
  · rename_i addr hread
    obtain rfl : addr = read := Option.some.inj h
    obtain ⟨whole, hwhole, host, t, ds, rfl, -, -, ⟨v4, hip, -⟩ | ⟨v6, -, hbracket⟩⟩ :=
      read_socket_addr_reads _ _ _ hread
    · exact ⟨v4, hip⟩
    · have hhead : (ip.to_chars ++ ':' :: text).head? = some '[' := by
        rw [hwhole, List.append_nil, List.head?_append, hbracket, Option.some_or]
      rw [List.head?_append] at hhead
      rcases Option.or_eq_some_iff.mp hhead with hfirst | ⟨-, hcolon⟩
      · have hchar := List.all_eq_true.mp ip.to_chars_all '[' (List.mem_of_mem_head? hfirst)
        exact absurd hchar (by decide)
      · exact absurd hcolon (by simp)
  · cases h

end Alknet.Rust
