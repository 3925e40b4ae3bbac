import Alknet.Lib.Numeral
import Mathlib.Data.Vector.Basic

/-!
# `std::net`: addresses, their parser and their text

The parser of `core::net::parser` as functions from the unread characters to a value and the rest.
`none` is the failure that `read_atomically` turns into an unmoved position.
-/

open Alknet.Lib.Numeral

namespace Alknet.Rust

/-! ## Addresses -/

structure Ipv4Addr where
  octets : List.Vector UInt8 4
deriving DecidableEq

structure Ipv6Addr where
  segments : List.Vector UInt16 8
deriving DecidableEq

inductive IpAddr where
  | V4 (addr : Ipv4Addr)
  | V6 (addr : Ipv6Addr)
deriving DecidableEq

/-- The flow information of a V6 address is always 0 here. -/
structure SocketAddr where
  ip : IpAddr
  port : UInt16
  scope_id : UInt32
deriving DecidableEq

/-! ## Numbers -/

def to_digit (radix : Nat) (c : Char) : Option Nat :=
  let digit :=
    if '0' ≤ c ∧ c ≤ '9' then some (c.toNat - '0'.toNat)
    else if 'a' ≤ c ∧ c ≤ 'z' then some (c.toNat - 'a'.toNat + 10)
    else if 'A' ≤ c ∧ c ≤ 'Z' then some (c.toNat - 'A'.toNat + 10)
    else none
  digit.filter (· < radix)

def read_digits (radix : Nat) : List Char → List Nat × List Char
  | [] => ([], [])
  | c :: cs =>
    match to_digit radix c with
    | some d => (d :: (read_digits radix cs).1, (read_digits radix cs).2)
    | none => ([], c :: cs)

/-- `Parser::read_number`, for a type that holds the numbers below `bound`. The source stops at the
digit that is one too many, or that overflows. No later digit makes that good. -/
def read_number (radix bound : Nat) (max_digits : Option Nat) (allow_leading_zero : Bool)
    (s : List Char) : Option (Nat × List Char) :=
  let (digits, rest) := read_digits radix s
  if digits.length = 0 then none
  else if max_digits.any (· < digits.length) then none
  else if !allow_leading_zero && digits.head? == some 0 && 1 < digits.length then none
  else if value radix digits < bound then some (value radix digits, rest)
  else none

def read_given_char (target : Char) : List Char → Option (List Char)
  | [] => none
  | c :: cs => if c = target then some cs else none

/-- `Parser::read_separator`: the separator comes before every item but the first. -/
def read_separator {α : Type} (sep : Char) (index : Nat)
    (inner : List Char → Option (α × List Char)) (s : List Char) : Option (α × List Char) :=
  if 0 < index then (read_given_char sep s).bind inner else inner s

/-! ## IP addresses -/

def read_octet (index : Nat) (s : List Char) : Option (UInt8 × List Char) :=
  read_separator '.' index
    (fun s => (read_number 10 256 (some 3) false s).map (Prod.map UInt8.ofNat id)) s

def read_ipv4_addr (s : List Char) : Option (Ipv4Addr × List Char) := do
  let (a, s) ← read_octet 0 s
  let (b, s) ← read_octet 1 s
  let (c, s) ← read_octet 2 s
  let (d, s) ← read_octet 3 s
  return (⟨a ::ᵥ b ::ᵥ c ::ᵥ d ::ᵥ .nil⟩, s)

def Ipv4Addr.groups (addr : Ipv4Addr) : List UInt16 :=
  [(addr.octets.get 0).toUInt16 * 256 + (addr.octets.get 1).toUInt16,
   (addr.octets.get 2).toUInt16 * 256 + (addr.octets.get 3).toUInt16]

def read_group (index : Nat) (s : List Char) : Option (UInt16 × List Char) :=
  read_separator ':' index
    (fun s => (read_number 16 65536 (some 4) true s).map (Prod.map UInt16.ofNat id)) s

/-- `read_groups`, with `room` groups left from `index` on: the groups read, and whether they end
in an IPv4 address. That needs room for two groups. -/
def read_groups : (room index : Nat) → List Char → List UInt16 × Bool × List Char
  | 0, _, s => ([], false, s)
  | room + 1, index, s =>
    match if 0 < room then read_separator ':' index read_ipv4_addr s else none with
    | some (addr, rest) => (addr.groups, true, rest)
    | none =>
      match read_group index s with
      | some (group, rest) =>
        let (groups, ipv4, rest) := read_groups room (index + 1) rest
        (group :: groups, ipv4, rest)
      | none => ([], false, s)

def Ipv6Addr.from_groups (groups : List UInt16) : Ipv6Addr :=
  ⟨List.Vector.ofFn fun i => groups.getD i 0⟩

def read_ipv6_addr (s : List Char) : Option (Ipv6Addr × List Char) :=
  let (head, head_ipv4, rest) := read_groups 8 0 s
  if head.length = 8 then some (.from_groups head, rest)
  else if head_ipv4 then none
  else do
    let rest ← read_given_char ':' rest
    let rest ← read_given_char ':' rest
    let (tail, _, rest) := read_groups (8 - (head.length + 1)) 0 rest
    let zeroes := List.replicate (8 - tail.length - head.length) 0
    return (.from_groups (head ++ zeroes ++ tail), rest)

def read_ip_addr (s : List Char) : Option (IpAddr × List Char) :=
  ((read_ipv4_addr s).map (Prod.map IpAddr.V4 id)).or
    ((read_ipv6_addr s).map (Prod.map IpAddr.V6 id))

/-! ## Socket addresses -/

def read_port (s : List Char) : Option (UInt16 × List Char) := do
  let s ← read_given_char ':' s
  let (port, s) ← read_number 10 65536 none true s
  return (.ofNat port, s)

def read_scope_id (s : List Char) : Option (UInt32 × List Char) := do
  let s ← read_given_char '%' s
  let (scope_id, s) ← read_number 10 (2 ^ 32) none true s
  return (.ofNat scope_id, s)

def read_socket_addr_v4 (s : List Char) : Option (SocketAddr × List Char) := do
  let (ip, s) ← read_ipv4_addr s
  let (port, s) ← read_port s
  return (⟨.V4 ip, port, 0⟩, s)

def read_socket_addr_v6 (s : List Char) : Option (SocketAddr × List Char) := do
  let s ← read_given_char '[' s
  let (ip, s) ← read_ipv6_addr s
  let (scope_id, s) := (read_scope_id s).getD (0, s)
  let s ← read_given_char ']' s
  let (port, s) ← read_port s
  return (⟨.V6 ip, port, scope_id⟩, s)

def read_socket_addr (s : List Char) : Option (SocketAddr × List Char) :=
  (read_socket_addr_v4 s).or (read_socket_addr_v6 s)

/-! ## `from_str` -/

/-- `Parser::parse_with`: nothing may be left. -/
def parse_with {α : Type} (inner : List Char → Option (α × List Char)) (s : String) : Option α :=
  match inner s.toList with
  | some (a, []) => some a
  | _ => none

def IpAddr.from_str (s : String) : Option IpAddr := parse_with read_ip_addr s

def SocketAddr.from_str (s : String) : Option SocketAddr := parse_with read_socket_addr s

/-! ## `Display` -/

/-- Digits are written in lower case. -/
def digit_char (d : Nat) : Char :=
  if d < 10 then Char.ofNat ('0'.toNat + d) else Char.ofNat ('a'.toNat + (d - 10))

def show_number (radix n : Nat) : List Char := (numeral radix n).map digit_char

def Ipv4Addr.to_chars (addr : Ipv4Addr) : List Char :=
  show_number 10 (addr.octets.get 0).toNat ++ '.' :: (show_number 10 (addr.octets.get 1).toNat ++
    '.' :: (show_number 10 (addr.octets.get 2).toNat ++
      '.' :: show_number 10 (addr.octets.get 3).toNat))

/-- `to_ipv4_mapped`: the address after `::ffff:`. -/
def Ipv6Addr.to_ipv4_mapped (addr : Ipv6Addr) : Option Ipv4Addr :=
  match addr.segments.toList with
  | [0, 0, 0, 0, 0, 0xffff, g, h] =>
    some ⟨(g / 256).toUInt8 ::ᵥ g.toUInt8 ::ᵥ (h / 256).toUInt8 ::ᵥ h.toUInt8 ::ᵥ .nil⟩
  | _ => none

structure Span where
  start : Nat
  len : Nat

/-- The loop over the segments that finds the first longest span of zeroes. -/
def longest_span : List UInt16 → (i : Nat) → (longest current : Span) → Span
  | [], _, longest, _ => longest
  | segment :: segments, i, longest, current =>
    if segment = 0 then
      let current : Span := ⟨if current.len = 0 then i else current.start, current.len + 1⟩
      longest_span segments (i + 1) (if longest.len < current.len then current else longest) current
    else longest_span segments (i + 1) longest ⟨0, 0⟩

def fmt_subslice : List UInt16 → List Char
  | [] => []
  | first :: tail =>
    show_number 16 first.toNat ++ tail.flatMap (fun segment => ':' :: show_number 16 segment.toNat)

def Ipv6Addr.to_chars (addr : Ipv6Addr) : List Char :=
  match addr.to_ipv4_mapped with
  | some ipv4 => "::ffff:".toList ++ ipv4.to_chars
  | none =>
    let segments := addr.segments.toList
    let zeroes := longest_span segments 0 ⟨0, 0⟩ ⟨0, 0⟩
    if 1 < zeroes.len then
      fmt_subslice (segments.take zeroes.start) ++ "::".toList ++
        fmt_subslice (segments.drop (zeroes.start + zeroes.len))
    else fmt_subslice segments

def IpAddr.to_chars : IpAddr → List Char
  | .V4 addr => addr.to_chars
  | .V6 addr => addr.to_chars

def IpAddr.to_string (ip : IpAddr) : String := String.ofList ip.to_chars

def SocketAddr.to_chars (addr : SocketAddr) : List Char :=
  match addr.ip with
  | .V4 ip => ip.to_chars ++ ':' :: show_number 10 addr.port.toNat
  | .V6 ip =>
    let scope := if addr.scope_id = 0 then [] else '%' :: show_number 10 addr.scope_id.toNat
    '[' :: (ip.to_chars ++ (scope ++ ']' :: ':' :: show_number 10 addr.port.toNat))

def SocketAddr.to_string (addr : SocketAddr) : String := String.ofList addr.to_chars

end Alknet.Rust
