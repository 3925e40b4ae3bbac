import Mathlib.Data.Vector.Defs
import Mathlib.Data.ZMod.Basic

/-!
# Hierarchical keys

The derivation of BIP-32, over a group with a base point of order `n` and with any hash. A public
key knows its own children that are not hardened: to derive and to forget the private key commute.
-/

namespace Alknet.Lib.Bip32

/-! ## Numbers of a fixed width, most significant byte first -/

def be_bytes : Nat → Nat → List UInt8
  | 0, _ => []
  | width + 1, m => be_bytes width (m / 256) ++ [UInt8.ofNat m]

def be_nat (bytes : List UInt8) : Nat := bytes.foldl (fun acc byte => 256 * acc + byte.toNat) 0

@[simp] theorem length_be_bytes (width m : Nat) : (be_bytes width m).length = width := by
  induction width generalizing m with
  | zero => rfl
  | succ width ih => rw [be_bytes, List.length_append, ih, List.length_singleton]

theorem be_nat_be_bytes (width m : Nat) : be_nat (be_bytes width m) = m % 256 ^ width := by
  induction width generalizing m with
  | zero => exact (Nat.mod_one m).symm
  | succ width ih =>
    have hlast : (UInt8.ofNat m).toNat = m % 256 := UInt8.toNat_ofNat'
    rw [be_bytes, be_nat, List.foldl_concat, ← be_nat, ih, hlast, Nat.pow_succ',
      Nat.mod_mul, Nat.add_comm]

/-! ## Keys -/

/-- The group, and the hash of a key and a message. -/
structure Setting where
  n : Nat
  n_ne_zero : NeZero n
  n_le : n ≤ 256 ^ 32
  Point : Type
  group : AddCommGroup Point
  point : ZMod n →+ Point
  point_ne_zero : ∀ k, k ≠ 0 → point k ≠ 0
  serialize : Point → List UInt8
  hmac : List UInt8 → List UInt8 → List.Vector UInt8 64

namespace Setting

variable (S : Setting)

instance : NeZero S.n := S.n_ne_zero
instance : AddCommGroup S.Point := S.group

/-- A private key and its chain code. -/
@[ext] structure XPrv where
  k : ZMod S.n
  k_ne_zero : k ≠ 0
  c : List UInt8

/-- A public key and its chain code. -/
@[ext] structure XPub where
  K : S.Point
  K_ne_zero : K ≠ 0
  c : List UInt8

def ser256 (k : ZMod S.n) : List UInt8 := be_bytes 32 k.val

/-- The left half of a hash, as a number. -/
def left (hash : List.Vector UInt8 64) : Nat := be_nat (hash.toList.take 32)

/-- The right half of a hash, which is a chain code. -/
def right (hash : List.Vector UInt8 64) : List UInt8 := hash.toList.drop 32

def hardened (i : UInt32) : Prop := 2 ^ 31 ≤ i.toNat

instance (i : UInt32) : Decidable (hardened i) := inferInstanceAs (Decidable (_ ≤ _))

/-- The ASCII text `Bitcoin seed`. -/
def seed_key : List UInt8 := [66, 105, 116, 99, 111, 105, 110, 32, 115, 101, 101, 100]

def master (seed : List UInt8) : Option S.XPrv :=
  let hash := S.hmac seed_key seed
  if h : left hash < S.n ∧ (left hash : ZMod S.n) ≠ 0 then some ⟨left hash, h.2, right hash⟩
  else none

/-- The child of a private key, with the hash for it. -/
def XPrv.child (x : S.XPrv) (hash : List.Vector UInt8 64) : Option S.XPrv :=
  if h : left hash < S.n ∧ (left hash : ZMod S.n) + x.k ≠ 0 then
    some ⟨left hash + x.k, h.2, right hash⟩
  else none

open scoped Classical in
/-- The child of a public key, with the hash for it. -/
noncomputable def XPub.child (X : S.XPub) (hash : List.Vector UInt8 64) : Option S.XPub :=
  if h : left hash < S.n ∧ S.point (left hash) + X.K ≠ 0 then
    some ⟨S.point (left hash) + X.K, h.2, right hash⟩
  else none

/-- Private parent key to private child key. -/
def CKDpriv (x : S.XPrv) (i : UInt32) : Option S.XPrv :=
  let message := if hardened i then 0 :: S.ser256 x.k else S.serialize (S.point x.k)
  XPrv.child S x (S.hmac x.c (message ++ be_bytes 4 i.toNat))

/-- Public parent key to public child key. -/
noncomputable def CKDpub (X : S.XPub) (i : UInt32) : Option S.XPub :=
  if hardened i then none
  else XPub.child S X (S.hmac X.c (S.serialize X.K ++ be_bytes 4 i.toNat))

/-- The public key of a private key. -/
def neuter (x : S.XPrv) : S.XPub := ⟨S.point x.k, S.point_ne_zero x.k x.k_ne_zero, x.c⟩

variable {S}

theorem point_eq_zero_iff (k : ZMod S.n) : S.point k = 0 ↔ k = 0 :=
  ⟨not_imp_not.mp (S.point_ne_zero k), fun h => h ▸ map_zero S.point⟩

theorem child_neuter (x : S.XPrv) (hash : List.Vector UInt8 64) :
    XPub.child S (S.neuter x) hash = (XPrv.child S x hash).map S.neuter := by
  have hpoint : S.point (left hash) + S.point x.k = S.point ((left hash : ZMod S.n) + x.k) :=
    (map_add S.point _ _).symm
  have hzero : S.point (left hash) + S.point x.k ≠ 0 ↔ (left hash : ZMod S.n) + x.k ≠ 0 := by
    rw [hpoint, ne_eq, point_eq_zero_iff]
  unfold XPub.child XPrv.child
  by_cases h : left hash < S.n ∧ (left hash : ZMod S.n) + x.k ≠ 0
  · rw [dif_pos h, dif_pos ⟨h.1, hzero.mpr h.2⟩, Option.map_some]
    exact congrArg some (XPub.ext hpoint rfl)
  · rw [dif_neg h, dif_neg fun h' => h ⟨h'.1, hzero.mp h'.2⟩, Option.map_none]

/-- The public child is the public key of the private child. -/
theorem CKDpub_neuter (x : S.XPrv) {i : UInt32} (hi : ¬ hardened i) :
    S.CKDpub (S.neuter x) i = (S.CKDpriv x i).map S.neuter := by
  unfold CKDpub CKDpriv
  rw [if_neg hi, if_neg hi]
  exact child_neuter x _

theorem be_nat_ser256 (k : ZMod S.n) : be_nat (S.ser256 k) = k.val := by
  rw [ser256, be_nat_be_bytes, Nat.mod_eq_of_lt (Nat.lt_of_lt_of_le (ZMod.val_lt k) S.n_le)]

end Setting

end Alknet.Lib.Bip32
