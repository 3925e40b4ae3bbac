import Mathlib.Data.List.Basic

/-!
# Base64 with the standard alphabet and canonical padding

Three bytes are four symbols. The last group may be one or two bytes, padded with
`=`; the bits that the padding stands for must be zero.
-/

namespace Alknet.Lib.Base64

def alphabet : List Char :=
  "ABCDEFGHIJKLMNOPQRSTUVWXYZabcdefghijklmnopqrstuvwxyz0123456789+/".toList

def symbol (n : Nat) : Char := alphabet.getD n '='

def value (c : Char) : Option Nat :=
  if alphabet.idxOf c < 64 then some (alphabet.idxOf c) else none

set_option maxRecDepth 10000 in
theorem value_symbol_fin : ∀ n : Fin 64, value (symbol n) = some n.val ∧ symbol n ≠ '=' := by
  decide

theorem value_symbol {n : Nat} (h : n < 64) : value (symbol n) = some n :=
  (value_symbol_fin ⟨n, h⟩).1

theorem symbol_ne_pad {n : Nat} (h : n < 64) : symbol n ≠ '=' := (value_symbol_fin ⟨n, h⟩).2

def encode : List UInt8 → List Char
  | [] => []
  | [a] => [symbol (a.toNat / 4), symbol (a.toNat % 4 * 16), '=', '=']
  | [a, b] =>
    [symbol (a.toNat / 4), symbol (a.toNat % 4 * 16 + b.toNat / 16), symbol (b.toNat % 16 * 4), '=']
  | a :: b :: c :: rest =>
    symbol (a.toNat / 4) :: symbol (a.toNat % 4 * 16 + b.toNat / 16) ::
      symbol (b.toNat % 16 * 4 + c.toNat / 64) :: symbol (c.toNat % 64) :: encode rest

/-- The group that ends in `=`. -/
def decodeLast (x y z : Char) : Option (List UInt8) := do
  let x ← value x
  let y ← value y
  if z = '=' then
    if y % 16 = 0 then return [UInt8.ofNat (x * 4 + y / 16)] else none
  else
    let z ← value z
    if z % 4 = 0 then
      return [UInt8.ofNat (x * 4 + y / 16), UInt8.ofNat (y % 16 * 16 + z / 4)]
    else none

def decode : List Char → Option (List UInt8)
  | [] => some []
  | x :: y :: z :: w :: rest =>
    if w = '=' ∧ rest = [] then decodeLast x y z
    else do
      let x ← value x
      let y ← value y
      let z ← value z
      let w ← value w
      let rest ← decode rest
      return UInt8.ofNat (x * 4 + y / 16) :: UInt8.ofNat (y % 16 * 16 + z / 4) ::
        UInt8.ofNat (z % 4 * 64 + w) :: rest
  | _ => none

theorem ofNat_eq {n : Nat} {b : UInt8} (h : n = b.toNat) : UInt8.ofNat n = b := by
  rw [h, UInt8.ofNat_toNat]

theorem decode_encode (bytes : List UInt8) : decode (encode bytes) = some bytes := by
  induction bytes using encode.induct with
  | case1 => rfl
  | case2 a =>
    have ha := a.toNat_lt
    simp only [encode, decode, decodeLast, and_self, if_true,
      value_symbol (show a.toNat / 4 < 64 by omega),
      value_symbol (show a.toNat % 4 * 16 < 64 by omega), Option.bind_eq_bind, Option.bind_some]
    rw [if_pos (by omega), ofNat_eq (show _ = a.toNat by omega)]
    rfl
  | case3 a b =>
    have ha := a.toNat_lt
    have hb := b.toNat_lt
    have hz : b.toNat % 16 * 4 < 64 := by omega
    simp only [encode, decode, decodeLast, and_self, if_true, symbol_ne_pad hz, if_false,
      value_symbol (show a.toNat / 4 < 64 by omega), value_symbol hz,
      value_symbol (show a.toNat % 4 * 16 + b.toNat / 16 < 64 by omega),
      Option.bind_eq_bind, Option.bind_some]
    rw [if_pos (by omega), ofNat_eq (show _ = a.toNat by omega),
      ofNat_eq (show _ = b.toNat by omega)]
    rfl
  | case4 a b c rest ih =>
    have ha := a.toNat_lt
    have hb := b.toNat_lt
    have hc := c.toNat_lt
    have hw : c.toNat % 64 < 64 := by omega
    simp only [encode, decode, symbol_ne_pad hw, false_and, if_false, value_symbol hw, ih,
      value_symbol (show a.toNat / 4 < 64 by omega),
      value_symbol (show a.toNat % 4 * 16 + b.toNat / 16 < 64 by omega),
      value_symbol (show b.toNat % 16 * 4 + c.toNat / 64 < 64 by omega),
      Option.bind_eq_bind, Option.bind_some]
    rw [ofNat_eq (show _ = a.toNat by omega), ofNat_eq (show _ = b.toNat by omega),
      ofNat_eq (show _ = c.toNat by omega)]
    rfl

end Alknet.Lib.Base64
