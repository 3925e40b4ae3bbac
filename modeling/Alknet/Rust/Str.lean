import Mathlib.Data.List.DropRight

/-! # The string functions of the Rust library that the code calls -/

namespace Alknet.Rust

def as_bytes (s : String) : List UInt8 := s.toByteArray.data.toList

/-- `String::from_utf8`, without its error text. -/
def from_utf8 (bytes : List UInt8) : Option String := String.fromUTF8? ⟨bytes.toArray⟩

theorem from_utf8_as_bytes (s : String) : from_utf8 (as_bytes s) = some s := by
  have hb : (⟨s.toByteArray.data.toList.toArray⟩ : ByteArray) = s.toByteArray := by simp
  unfold from_utf8 as_bytes String.fromUTF8?
  rw [hb, dif_pos s.isValidUTF8]
  rfl

theorem eq_as_bytes_of_from_utf8 {bytes : List UInt8} {s : String}
    (h : from_utf8 bytes = some s) : bytes = as_bytes s := by
  unfold from_utf8 String.fromUTF8? at h
  split at h
  · simp only [Option.some.injEq] at h
    rw [← h]
    rfl
  · simp at h

/-- The byte continues a sequence. -/
def is_cont (byte : UInt8) : Bool := 0x80 ≤ byte && byte ≤ 0xBF

/-- The bytes that a second byte may have behind this first one of a longer sequence. -/
def second_byte (first second : UInt8) : Bool :=
  if first = 0xE0 then 0xA0 ≤ second && second ≤ 0xBF
  else if first = 0xED then 0x80 ≤ second && second ≤ 0x9F
  else if first = 0xF0 then 0x90 ≤ second && second ≤ 0xBF
  else if first = 0xF4 then 0x80 ≤ second && second ≤ 0x8F
  else is_cont second

/-- `utf8_char_width` -/
def char_width (first : UInt8) : Nat :=
  if first < 0x80 then 1
  else if 0xC2 ≤ first && first ≤ 0xDF then 2
  else if 0xE0 ≤ first && first ≤ 0xEF then 3
  else if 0xF0 ≤ first && first ≤ 0xF4 then 4
  else 0

/-- How many of the following bytes belong to the sequence that `first` starts. -/
def continued (first : UInt8) (bytes : List UInt8) : Nat :=
  match bytes with
  | [] => 0
  | second :: bytes =>
    if second_byte first second then
      1 + (bytes.takeWhile is_cont).length.min (char_width first - 2)
    else 0

/-- The chunks of `Utf8Chunks`: whole sequences as they are, and the replacement character for the
longest part of a sequence that is not whole. -/
def replace_invalid : (fuel : Nat) → List UInt8 → List UInt8
  | 0, _ => []
  | _, [] => []
  | fuel + 1, first :: bytes =>
    let width := char_width first
    let more := if width ≤ 1 then 0 else continued first bytes
    if more + 1 = width then first :: bytes.take more ++ replace_invalid fuel (bytes.drop more)
    else [0xEF, 0xBF, 0xBD] ++ replace_invalid fuel (bytes.drop more)

/-- `String::from_utf8_lossy`. Valid text is taken as it is. -/
def from_utf8_lossy (bytes : List UInt8) : String :=
  match from_utf8 bytes with
  | some s => s
  | none => (from_utf8 (replace_invalid bytes.length bytes)).getD ""

theorem from_utf8_lossy_as_bytes (s : String) : from_utf8_lossy (as_bytes s) = s := by
  rw [from_utf8_lossy, from_utf8_as_bytes]

/-- The digits of a decimal `u32`, most significant first, with the overflow check of each step. -/
def parse_digits : List Char → Nat → Option Nat
  | [], acc => some acc
  | c :: cs, acc =>
    if c.isDigit then
      let acc := 10 * acc + (c.toNat - '0'.toNat)
      if acc < 2 ^ 32 then parse_digits cs acc else none
    else none

/-- `str::parse::<u32>`. A leading `+` is accepted, a sign alone is not. -/
def parse_u32 : List Char → Option UInt32
  | [] => none
  | ['+'] => none
  | '+' :: digits => (parse_digits digits 0).map UInt32.ofNat
  | digits => (parse_digits digits 0).map UInt32.ofNat

def trim_end_matches (c : Char) (s : List Char) : List Char := s.rdropWhile (· == c)

def ends_with_char (c : Char) (s : List Char) : Bool := s.getLast? == some c

end Alknet.Rust
