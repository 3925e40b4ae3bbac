import Alknet.Rust.NetSpec

/-!
# Addresses read back from their texts

For an IPv6 address `Display` leaves out the first longest run of zero segments, and writes an
IPv4-mapped address with the IPv4 text at its end. The parser puts both back. What follows the
address must not look like more of it.
-/

open Alknet.Lib.Numeral

namespace Alknet.Rust

/-! ## Where an address ends -/

/-- The next character is no part of a group, and does not make an IPv4 address of it. -/
def EndsGroup (rest : List Char) : Prop :=
  ∀ c, rest.head? = some c → to_digit 16 c = none ∧ c ≠ '.'

/-- Neither a group nor an IPv4 address can be read. -/
def NoGroup (rest : List Char) : Prop :=
  ∀ index, read_separator ':' index read_ipv4_addr rest = none ∧ read_group index rest = none

/-- What may follow an address. -/
def EndsAddr (rest : List Char) : Prop :=
  ∀ c, rest.head? = some c → to_digit 16 c = none ∧ c ≠ '.' ∧ c ≠ ':'

theorem endsAddr_nil : EndsAddr [] := fun c hc => by cases hc

theorem EndsAddr.endsGroup {rest : List Char} (h : EndsAddr rest) : EndsGroup rest :=
  fun c hc => ⟨(h c hc).1, (h c hc).2.1⟩

theorem endsGroup_colon (rest : List Char) : EndsGroup (':' :: rest) := by
  intro c hc
  obtain rfl : ':' = c := by simpa using hc
  decide

theorem to_digit_ten_none {c : Char} (h : to_digit 16 c = none) : to_digit 10 c = none := by
  by_contra hne
  obtain ⟨d, hd⟩ := Option.ne_none_iff_exists'.mp hne
  obtain ⟨hdigit, -⟩ := Option.filter_eq_some_iff.mp hd
  have hlt := to_digit_lt hd
  have hsome : to_digit 16 c = some d :=
    Option.filter_eq_some_iff.mpr ⟨hdigit, by simp only [decide_eq_true_eq]; omega⟩
  rw [h] at hsome
  cases hsome

theorem read_number_none {radix bound : Nat} {max_digits : Option Nat} {zero : Bool}
    {rest : List Char} (h : ∀ c, rest.head? = some c → to_digit radix c = none) :
    read_number radix bound max_digits zero rest = none := by
  have hdigits : read_digits radix rest = ([], rest) := by
    cases rest with
    | nil => rfl
    | cons c rest => simp [read_digits, h c rfl]
  simp [read_number, hdigits]

theorem not_read_of_no_digit {rest : List Char}
    (h : ∀ c, rest.head? = some c → to_digit 16 c = none) :
    read_ipv4_addr rest = none ∧
      (read_number 16 65536 (some 4) true rest).map (Prod.map UInt16.ofNat id) = none := by
  have hten : ∀ c, rest.head? = some c → to_digit 10 c = none :=
    fun c hc => to_digit_ten_none (h c hc)
  constructor
  · simp [read_ipv4_addr, read_octet, read_separator, read_number_none hten]
  · rw [read_number_none h]
    rfl

theorem EndsAddr.noGroup {rest : List Char} (h : EndsAddr rest) : NoGroup rest := by
  intro index
  obtain ⟨hipv4, hgroup⟩ := not_read_of_no_digit fun c hc => (h c hc).1
  by_cases hi : 0 < index
  · have hsep : read_given_char ':' rest = none := by
      cases rest with
      | nil => rfl
      | cons c rest => simp [read_given_char, (h c rfl).2.2]
    simp [read_group, read_separator, hi, hsep]
  · simp [read_group, read_separator, hi, hipv4, hgroup]

theorem noGroup_colons (rest : List Char) : NoGroup (':' :: ':' :: rest) := by
  have hcolon : ∀ (s : List Char) c, (':' :: s).head? = some c → to_digit 16 c = none :=
    fun s c hc => (endsGroup_colon s c hc).1
  intro index
  by_cases hi : 0 < index
  · obtain ⟨hipv4, hgroup⟩ := not_read_of_no_digit (hcolon rest)
    simp [read_group, read_separator, read_given_char, hi, hipv4, hgroup]
  · obtain ⟨hipv4, hgroup⟩ := not_read_of_no_digit (hcolon (':' :: rest))
    simp [read_group, read_separator, hi, hipv4, hgroup]

/-! ## Groups -/

def separator (index : Nat) : List Char := if 0 < index then [':'] else []

theorem read_separator_append {α : Type} (index : Nat)
    (inner : List Char → Option (α × List Char)) (s : List Char) :
    read_separator ':' index inner (separator index ++ s) = inner s := by
  unfold read_separator separator
  split <;> simp [read_given_char]

theorem read_group_show (index : Nat) (segment : UInt16) {rest : List Char}
    (hrest : EndsGroup rest) :
    read_group index (separator index ++ (show_number 16 segment.toNat ++ rest)) =
      some (segment, rest) := by
  have hlt : segment.toNat < 65536 := segment.toNat_lt
  have hlen : (numeral 16 segment.toNat).length ≤ 4 :=
    numeral_length_le (by decide) (by decide) (by omega)
  have hnum : read_number 16 65536 (some 4) true (show_number 16 segment.toNat ++ rest) =
      some (segment.toNat, rest) := by
    unfold read_number
    rw [read_digits_append (map_to_digit_show (by decide) _) fun c hc => (hrest c hc).1]
    simp only [value_numeral, List.length_eq_zero_iff, numeral_ne_nil, if_false, hlt, if_true]
    rw [if_neg (by simpa using hlen)]
    rfl
  rw [read_group, read_separator_append, hnum]
  simp

theorem map_to_digit_decimal (n : Nat) :
    (show_number 10 n).map (to_digit 16) = (numeral 10 n).map some := by
  have hdigit : ∀ d < 10, to_digit 16 (digit_char d) = some d := by decide
  rw [show_number, List.map_map]
  exact List.map_congr_left fun d hd => hdigit d (numeral_lt (by decide) hd)

theorem read_ipv4_addr_group (segment : UInt16) {rest : List Char} (hrest : EndsGroup rest) :
    read_ipv4_addr (show_number 16 segment.toNat ++ rest) = none := by
  -- an IPv4 address has a dot behind its first digits
  by_contra hne
  obtain ⟨⟨addr, rest'⟩, hread⟩ := Option.ne_none_iff_exists'.mp hne
  obtain ⟨text, heq, rfl⟩ := read_ipv4_addr_reads _ _ _ hread
  have hhex : 16 ∈ [10, 16] := by decide
  have hgroup := read_digits_append (map_to_digit_show hhex segment.toNat)
    fun c hc => (hrest c hc).1
  rw [heq, Ipv4Addr.to_chars, List.append_assoc, List.cons_append,
    read_digits_append (map_to_digit_decimal _) (by simp; decide)] at hgroup
  exact (hrest '.' (by rw [← (Prod.mk.inj hgroup).2]; rfl)).2 rfl

/-- The groups from an index on, as they are written. -/
def groups_text : (index : Nat) → List UInt16 → List Char
  | _, [] => []
  | index, segment :: segments =>
    separator index ++ (show_number 16 segment.toNat ++ groups_text (index + 1) segments)

theorem groups_text_succ (index : Nat) (segments : List UInt16) :
    groups_text (index + 1) segments =
      segments.flatMap fun segment => ':' :: show_number 16 segment.toNat := by
  induction segments generalizing index with
  | nil => rfl
  | cons segment segments ih => simp [groups_text, separator, ih]

theorem fmt_subslice_eq (segments : List UInt16) :
    fmt_subslice segments = groups_text 0 segments := by
  cases segments with
  | nil => rfl
  | cons segment segments => simp [fmt_subslice, groups_text, separator, groups_text_succ]

theorem endsGroup_groups_text {rest : List Char} (hrest : EndsGroup rest) (index : Nat)
    (segments : List UInt16) : EndsGroup (groups_text (index + 1) segments ++ rest) := by
  cases segments with
  | nil => exact hrest
  | cons segment segments => exact endsGroup_colon _

theorem read_groups_text {segments : List UInt16} {room : Nat} (hroom : segments.length ≤ room)
    (index : Nat) {rest : List Char} (hrest : EndsGroup rest)
    (hstop : segments.length < room → NoGroup rest) :
    read_groups room index (groups_text index segments ++ rest) = (segments, false, rest) := by
  induction segments generalizing room index with
  | nil =>
    cases room with
    | zero => rfl
    | succ room =>
      obtain ⟨hipv4, hgroup⟩ := hstop (Nat.succ_pos room) index
      exact read_groups_none hipv4 hgroup
  | cons segment segments ih =>
    cases room with
    | zero => simp at hroom
    | succ room =>
      have hbehind := endsGroup_groups_text hrest index segments
      have hipv4 : read_separator ':' index read_ipv4_addr
          (separator index ++ (show_number 16 segment.toNat ++
            (groups_text (index + 1) segments ++ rest))) = none := by
        rw [read_separator_append, read_ipv4_addr_group segment hbehind]
      have htail := ih (Nat.le_of_succ_le_succ hroom) (index + 1)
        fun hlt => hstop (Nat.succ_lt_succ hlt)
      rw [groups_text, List.append_assoc, List.append_assoc,
        read_groups_group hipv4 (read_group_show index segment hbehind), htail]

/-! ## The run of zeroes -/

/-- A span of zero segments. -/
structure Span.Zeroes (segments : List UInt16) (span : Span) : Prop where
  within : span.start + span.len ≤ segments.length
  zero : ∀ i, span.start ≤ i → i < span.start + span.len → segments[i]? = some 0

theorem longest_span_zeroes {all segments : List UInt16} {i : Nat} (hall : all.drop i = segments)
    {longest current : Span} (hlongest : longest.Zeroes all) (hcurrent : current.Zeroes all)
    (hend : current.len ≠ 0 → current.start + current.len = i) (hi : i ≤ all.length) :
    (longest_span segments i longest current).Zeroes all := by
  induction segments generalizing i longest current with
  | nil => exact hlongest
  | cons segment segments ih =>
    have hlt : i < all.length := by
      by_contra hge
      rw [List.drop_eq_nil_of_le (by omega)] at hall
      cases hall
    obtain ⟨hsegment, hdrop⟩ : all[i] = segment ∧ all.drop (i + 1) = segments := by
      rw [List.drop_eq_getElem_cons hlt, List.cons.injEq] at hall
      exact hall
    unfold longest_span
    split
    · rename_i hzero
      -- the span that ends here grows by one
      have hgrown : Span.Zeroes all
          ⟨if current.len = 0 then i else current.start, current.len + 1⟩ := by
        constructor
        · by_cases hlen : current.len = 0
          · simp only [hlen, if_true]
            omega
          · have := hend hlen
            simp only [hlen, if_false]
            omega
        · intro j hstart hstop
          by_cases hlen : current.len = 0
          · simp only [hlen, if_true] at hstart hstop
            obtain rfl : j = i := by omega
            rw [List.getElem?_eq_getElem hlt, hsegment, hzero]
          · simp only [hlen, if_false] at hstart hstop
            have := hend hlen
            by_cases hj : j = i
            · rw [hj, List.getElem?_eq_getElem hlt, hsegment, hzero]
            · exact hcurrent.zero j hstart (by omega)
      refine ih hdrop ?_ hgrown (fun _ => ?_) (by omega)
      · by_cases hlonger : longest.len < current.len + 1
        · rw [if_pos hlonger]
          exact hgrown
        · rw [if_neg hlonger]
          exact hlongest
      · by_cases hlen : current.len = 0
        · simp [hlen]
        · have := hend hlen
          simp only [hlen, if_false]
          omega
    · exact ih hdrop hlongest ⟨by simp, fun j _ hj => absurd hj (by simp)⟩
        (fun h => absurd rfl h) (by omega)

theorem span_zeroes_nil (segments : List UInt16) : Span.Zeroes segments ⟨0, 0⟩ :=
  ⟨Nat.zero_le _, fun j _ hj => absurd hj (by simp)⟩

theorem Span.Zeroes.split {segments : List UInt16} {span : Span} (h : span.Zeroes segments) :
    segments.take span.start ++ List.replicate span.len 0 ++
      segments.drop (span.start + span.len) = segments := by
  have hmiddle : (segments.drop span.start).take span.len = List.replicate span.len 0 := by
    have hwithin := h.within
    refine List.eq_replicate_iff.mpr ⟨by simp; omega, fun x hx => ?_⟩
    obtain ⟨j, hj, rfl⟩ := List.getElem_of_mem hx
    have hlt : j < span.len := by
      have := List.length_take_le span.len (segments.drop span.start)
      omega
    have hzero := h.zero (span.start + j) (Nat.le_add_right _ _) (by omega)
    rw [List.getElem_take, List.getElem_drop]
    exact Option.some.inj ((List.getElem?_eq_getElem _).symm.trans hzero)
  rw [← hmiddle, List.append_assoc, ← List.drop_drop, List.take_append_drop,
    List.take_append_drop]

/-! ## Addresses -/

theorem from_groups_segments (addr : Ipv6Addr) :
    Ipv6Addr.from_groups addr.segments.toList = addr := by
  obtain ⟨segments⟩ := addr
  unfold Ipv6Addr.from_groups
  congr 1
  refine List.Vector.ext fun i => ?_
  rw [List.Vector.get_ofFn, List.Vector.get_eq_get_toList]
  have hlt : i.val < segments.toList.length := by simp
  simp [List.getD_eq_getElem?_getD]

theorem group_of_bytes (g : UInt16) :
    (g / 256).toUInt8.toUInt16 * 256 + g.toUInt8.toUInt16 = g := by
  apply UInt16.toNat_inj.mp
  have := g.toNat_lt
  simp
  omega

theorem to_ipv4_mapped_groups {addr : Ipv6Addr} {ipv4 : Ipv4Addr}
    (h : addr.to_ipv4_mapped = some ipv4) :
    addr.segments.toList = List.replicate 5 0 ++ 0xffff :: ipv4.groups := by
  unfold Ipv6Addr.to_ipv4_mapped at h
  split at h
  · rename_i g h' hsegments
    cases h
    rw [hsegments]
    show [0, 0, 0, 0, 0, 0xffff, g, h'] = [0, 0, 0, 0, 0, 0xffff,
      (g / 256).toUInt8.toUInt16 * 256 + g.toUInt8.toUInt16,
      (h' / 256).toUInt8.toUInt16 * 256 + h'.toUInt8.toUInt16]
    rw [group_of_bytes, group_of_bytes]
  · cases h

theorem read_mapped (ipv4 : Ipv4Addr) {rest : List Char} (hrest : EndsAddr rest) :
    read_groups 7 0 ("ffff:".toList ++ (ipv4.to_chars ++ rest)) =
      (0xffff :: ipv4.groups, true, rest) := by
  have hffff : "ffff:".toList ++ (ipv4.to_chars ++ rest) =
      separator 0 ++ (show_number 16 (0xffff : UInt16).toNat ++
        (':' :: (ipv4.to_chars ++ rest))) := by
    have : show_number 16 (0xffff : UInt16).toNat = "ffff".toList := by
      simp [show_number, numeral, digit_char]
    rw [this]
    rfl
  have hten : ∀ c, rest.head? = some c → to_digit 10 c = none :=
    fun c hc => to_digit_ten_none (hrest c hc).1
  have hcolon := endsGroup_colon (ipv4.to_chars ++ rest)
  have hfirst : read_separator ':' 0 read_ipv4_addr (separator 0 ++
      (show_number 16 (0xffff : UInt16).toNat ++ (':' :: (ipv4.to_chars ++ rest)))) = none := by
    rw [read_separator_append, read_ipv4_addr_group _ hcolon]
  have hsecond : read_separator ':' 1 read_ipv4_addr (':' :: (ipv4.to_chars ++ rest)) =
      some (ipv4, rest) := by
    simp [read_separator, read_given_char, read_ipv4_addr_show ipv4 hten]
  rw [hffff, read_groups_group hfirst (read_group_show 0 0xffff hcolon),
    read_groups_ipv4 (by decide) hsecond]

theorem read_ipv6_addr_colons (head : List UInt16) {tail : List UInt16} {ipv4 : Bool}
    {s rest : List Char} (hlength : head.length < 8)
    (htail : read_groups (7 - head.length) 0 s = (tail, ipv4, rest)) :
    read_ipv6_addr (groups_text 0 head ++ (':' :: ':' :: s)) =
      some (.from_groups (head ++ List.replicate (8 - tail.length - head.length) 0 ++ tail),
        rest) := by
  have hhead := read_groups_text (Nat.le_of_lt hlength) 0 (endsGroup_colon (':' :: s))
    fun _ => noGroup_colons s
  simp [read_ipv6_addr, hhead, Nat.ne_of_lt hlength, read_given_char, htail]

/-- **IPv6 round trip.** -/
theorem read_ipv6_addr_show (addr : Ipv6Addr) {rest : List Char} (hrest : EndsAddr rest) :
    read_ipv6_addr (addr.to_chars ++ rest) = some (addr, rest) := by
  have hlength : addr.segments.toList.length = 8 := addr.segments.toList_length
  unfold Ipv6Addr.to_chars
  split
  -- an IPv4-mapped address
  · rename_i ipv4 hmapped
    have hread := read_ipv6_addr_colons [] (by decide) (read_mapped ipv4 hrest)
    have hgroups : [] ++ List.replicate (8 - (0xffff :: ipv4.groups).length -
        ([] : List UInt16).length) 0 ++ 0xffff :: ipv4.groups = addr.segments.toList :=
      (to_ipv4_mapped_groups hmapped).symm
    rw [hgroups, from_groups_segments] at hread
    rw [List.append_assoc]
    exact hread
  · simp only
    split
    -- a run of zeroes is left out
    · rename_i hmany
      have hzeroes := longest_span_zeroes (List.drop_zero) (span_zeroes_nil _) (span_zeroes_nil _)
        (fun h => absurd rfl h) (Nat.zero_le addr.segments.toList.length)
      generalize longest_span addr.segments.toList 0 ⟨0, 0⟩ ⟨0, 0⟩ = zeroes at hmany hzeroes
      have hwithin := hzeroes.within
      have htake : (addr.segments.toList.take zeroes.start).length = zeroes.start := by
        rw [List.length_take]
        omega
      have htail : read_groups (7 - (addr.segments.toList.take zeroes.start).length) 0
          (groups_text 0 (addr.segments.toList.drop (zeroes.start + zeroes.len)) ++ rest) =
          (addr.segments.toList.drop (zeroes.start + zeroes.len), false, rest) := by
        refine read_groups_text ?_ 0 hrest.endsGroup fun _ => hrest.noGroup
        rw [List.length_drop, htake]
        omega
      have hread := read_ipv6_addr_colons _ (by omega) htail
      have hlen : 8 - (addr.segments.toList.drop (zeroes.start + zeroes.len)).length -
          (addr.segments.toList.take zeroes.start).length = zeroes.len := by
        rw [List.length_drop, htake]
        omega
      rw [hlen, hzeroes.split, from_groups_segments] at hread
      rw [fmt_subslice_eq, fmt_subslice_eq, List.append_assoc, List.append_assoc]
      exact hread
    · have hread := read_groups_text (Nat.le_of_eq hlength) 0 hrest.endsGroup
        fun hlt => absurd hlength (Nat.ne_of_lt hlt)
      rw [fmt_subslice_eq]
      simp [read_ipv6_addr, hread, hlength, from_groups_segments]

/-! ## Socket addresses -/

theorem read_scope_id_show (scope_id : UInt32) (rest : List Char) :
    read_scope_id ('%' :: (show_number 10 scope_id.toNat ++ (']' :: rest))) =
      some (scope_id, ']' :: rest) := by
  have hbracket : ∀ c, (']' :: rest).head? = some c → to_digit 10 c = none := by
    intro c hc
    obtain rfl : ']' = c := by simpa using hc
    decide
  have hnum : read_number 10 4294967296 none true
      (show_number 10 scope_id.toNat ++ (']' :: rest)) = some (scope_id.toNat, ']' :: rest) := by
    unfold read_number
    rw [read_digits_append (map_to_digit_show (by decide) _) hbracket]
    simp only [value_numeral, List.length_eq_zero_iff, numeral_ne_nil, if_false]
    simpa using scope_id.toNat_lt
  simp [read_scope_id, read_given_char, hnum]

theorem read_socket_addr_v6_show (ip : Ipv6Addr) (port : UInt16) (scope_id : UInt32) :
    read_socket_addr_v6 (SocketAddr.to_chars ⟨.V6 ip, port, scope_id⟩) =
      some (⟨.V6 ip, port, scope_id⟩, []) := by
  have hends : ∀ (target : Char) (rest : List Char), target = '%' ∨ target = ']' →
      EndsAddr (target :: rest) := by
    intro target rest htarget c hc
    obtain rfl : target = c := by simpa using hc
    rcases htarget with rfl | rfl <;> decide
  by_cases hscope : scope_id = 0
  · subst hscope
    have hip := read_ipv6_addr_show ip
      (hends ']' (':' :: show_number 10 port.toNat) (.inr rfl))
    simp [read_socket_addr_v6, SocketAddr.to_chars, read_given_char, hip, read_scope_id,
      read_port_show]
  · have hip := read_ipv6_addr_show ip (hends '%' (show_number 10 scope_id.toNat ++
      (']' :: ':' :: show_number 10 port.toNat)) (.inl rfl))
    simp [read_socket_addr_v6, SocketAddr.to_chars, hscope, read_given_char, hip,
      read_scope_id_show, read_port_show]

theorem scope_id_of_from_str {s : String} {addr : SocketAddr}
    (h : SocketAddr.from_str s = some addr) {ip : Ipv4Addr} (hip : addr.ip = .V4 ip) :
    addr.scope_id = 0 := by
  unfold SocketAddr.from_str parse_with at h
  split at h
  · rename_i read hread
    obtain rfl := Option.some.inj h
    rcases Option.or_eq_some_iff.mp hread with hv4 | ⟨-, hv6⟩
    · simp only [read_socket_addr_v4, Option.bind_eq_bind, Option.bind_eq_some_iff,
        Option.pure_def, Option.some.injEq, Prod.mk.injEq, Prod.exists] at hv4
      obtain ⟨_, _, _, _, _, _, rfl, _⟩ := hv4
      rfl
    · simp only [read_socket_addr_v6, Option.bind_eq_bind, Option.bind_eq_some_iff,
        Option.pure_def, Option.some.injEq, Prod.mk.injEq, Prod.exists] at hv6
      obtain ⟨_, _, _, _, _, _, _, _, _, _, rfl, _⟩ := hv6
      cases hip
  · cases h

/-- **Socket address round trip.** -/
theorem SocketAddr.from_str_to_string {s : String} {addr : SocketAddr}
    (h : SocketAddr.from_str s = some addr) : SocketAddr.from_str addr.to_string = some addr := by
  obtain ⟨ip, port, scope_id⟩ := addr
  cases ip with
  | V4 ip =>
    obtain rfl : scope_id = 0 := scope_id_of_from_str h rfl
    exact SocketAddr.from_str_v4 ip port
  | V6 ip =>
    have hbracket : ∀ (rest : List Char) c, ('[' :: rest).head? = some c →
        to_digit 16 c = none := by
      intro rest c hc
      obtain rfl : '[' = c := by simpa using hc
      decide
    have hv4 : read_socket_addr_v4 (SocketAddr.to_chars ⟨.V6 ip, port, scope_id⟩) = none := by
      simp [read_socket_addr_v4, SocketAddr.to_chars, (not_read_of_no_digit (hbracket _)).1]
    rw [SocketAddr.from_str, parse_with, SocketAddr.to_string, String.toList_ofList,
      read_socket_addr, hv4, Option.none_or, read_socket_addr_v6_show]

end Alknet.Rust
