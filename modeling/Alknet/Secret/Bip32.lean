import Alknet.Code.Secret.Ethereum

/-!
# The keys of a path are those of BIP-32

A key of the code stands for a private key of BIP-32 when its fields are the bytes of that key, of
its point and of its chain code. The master key does, and each child of a key that does.
-/

open Alknet.Rust Alknet.Lib.Bip32 Alknet.Lib.Bip32.Setting

namespace Alknet.Secret

variable {S : SecpCrate}

/-! ## The crate -/

namespace SecpCrate

theorem from_slice_eq_ok {data : List UInt8} {key : S.SecretKey}
    (h : S.from_slice data = .ok key) :
    be_nat data < S.n ∧ (be_nat data : ZMod S.n) = key.1 := by
  unfold from_slice at h
  split at h
  · next hdata =>
    cases h
    exact ⟨hdata.2.1, rfl⟩
  · cases h

theorem from_slice_secret_bytes {data : List UInt8} {key : S.SecretKey} {k : ZMod S.n}
    (hdata : data = S.ser256 k) (h : S.from_slice data = .ok key) : key.1 = k := by
  rw [← (from_slice_eq_ok h).2, hdata, be_nat_ser256, ZMod.natCast_zmod_val]

theorem add_tweak_eq_ok {key tweak sum : S.SecretKey} (h : S.add_tweak key tweak = .ok sum) :
    sum.1 = key.1 + tweak.1 := by
  unfold add_tweak at h
  split at h
  · cases h
    rfl
  · cases h

end SecpCrate

/-! ## Keys -/

/-- The bytes of the key are those of the key of BIP-32. -/
structure StandsFor (S : SecpCrate) (key : Secp256k1ExtendedPrivKey) (x : S.XPrv) : Prop where
  private_key : key.private_key.toList = S.ser256 x.k
  public_key : key.public_key = S.serialize (S.point x.k)
  chain_code : key.chain_code = x.c

theorem standsFor_extended (secret_key : S.SecretKey) (c : List UInt8) :
    StandsFor S (S.extended secret_key c) ⟨secret_key.1, secret_key.2, c⟩ := ⟨rfl, rfl, rfl⟩

theorem standsFor_of_eq {secret_key : S.SecretKey} {c : List UInt8} {x : S.XPrv}
    (hk : x.k = secret_key.1) (hc : x.c = c) : StandsFor S (S.extended secret_key c) x := by
  obtain rfl : x = ⟨secret_key.1, secret_key.2, c⟩ := XPrv.ext hk hc
  exact standsFor_extended secret_key c

theorem derive_master_eq_ok {seed : List UInt8} {key : Secp256k1ExtendedPrivKey}
    (h : derive_secp256k1_master_key S seed = .ok key) :
    ∃ x, S.master seed = some x ∧ StandsFor S key x := by
  obtain ⟨-, -, h⟩ := bind_eq_ok h
  obtain ⟨secret_key, hsecret, h⟩ := bind_eq_ok h
  obtain rfl := Except.ok.inj h
  obtain ⟨hlt, hk⟩ := SecpCrate.from_slice_eq_ok (mapError_eq_ok.mp hsecret)
  exact ⟨_, dif_pos ⟨hlt, hk ▸ secret_key.2⟩, standsFor_of_eq hk rfl⟩

theorem hardened_iff (index : UInt32) : HARDENED_OFFSET ≤ index ↔ hardened index :=
  UInt32.le_iff_toNat_le

theorem StandsFor.child {parent child : Secp256k1ExtendedPrivKey} {x : S.XPrv} {index : UInt32}
    (hparent : StandsFor S parent x) (h : derive_child S parent index = .ok child) :
    ∃ y, S.CKDpriv x index = some y ∧ StandsFor S child y := by
  obtain ⟨-, -, h⟩ := bind_eq_ok h
  obtain ⟨parent_secret, hsecret, h⟩ := bind_eq_ok h
  obtain ⟨child_key_raw, hraw, h⟩ := bind_eq_ok h
  obtain ⟨child_secret, htweak, h⟩ := bind_eq_ok h
  obtain rfl := Except.ok.inj h
  have hk := SecpCrate.from_slice_secret_bytes hparent.private_key (mapError_eq_ok.mp hsecret)
  obtain ⟨hlt, hleft⟩ := SecpCrate.from_slice_eq_ok (mapError_eq_ok.mp hraw)
  have hsum := SecpCrate.add_tweak_eq_ok (mapError_eq_ok.mp htweak)
  rw [hk, ← hleft, add_comm] at hsum
  simp only [hardened_iff, hparent.private_key, hparent.public_key, hparent.chain_code]
    at hlt hsum ⊢
  exact ⟨_, dif_pos ⟨hlt, hsum ▸ child_secret.2⟩, standsFor_of_eq hsum.symm rfl⟩

/-! ## Paths -/

theorem StandsFor.descendant {key key' : Secp256k1ExtendedPrivKey} {x : S.XPrv}
    {indices : List UInt32} (hkey : StandsFor S key x)
    (h : indices.foldlM (derive_child S) key = .ok key') :
    ∃ y, indices.foldlM S.CKDpriv x = some y ∧ StandsFor S key' y := by
  induction indices generalizing key x with
  | nil =>
    obtain rfl := Except.ok.inj h
    exact ⟨x, rfl, hkey⟩
  | cons index indices ih =>
    rw [List.foldlM_cons] at h
    obtain ⟨child, hchild, hrest⟩ := bind_eq_ok h
    obtain ⟨y, hy, hstands⟩ := hkey.child hchild
    obtain ⟨z, hz, hstands'⟩ := ih hstands hrest
    refine ⟨z, ?_, hstands'⟩
    rw [List.foldlM_cons, hy]
    exact hz

/-- The code's child is the child of BIP-32. When the index is not hardened, its public key and its
chain code are what the public key and the chain code of the parent give. -/
def DerivesChild (S : SecpCrate) (parent child : Secp256k1ExtendedPrivKey) (index : UInt32) :
    Prop :=
  ∃ y z, StandsFor S parent y ∧ StandsFor S child z ∧ S.CKDpriv y index = some z ∧
    (¬ hardened index → S.CKDpub (S.neuter y) index = some (S.neuter z))

theorem StandsFor.derivesChild {parent child : Secp256k1ExtendedPrivKey} {y : S.XPrv}
    {index : UInt32} (hparent : StandsFor S parent y)
    (h : derive_child S parent index = .ok child) : DerivesChild S parent child index := by
  obtain ⟨z, hz, hchild⟩ := hparent.child h
  refine ⟨y, z, hparent, hchild, hz, fun hsoft => ?_⟩
  rw [CKDpub_neuter y hsoft, hz, Option.map_some]

theorem derive_secp256k1_path_bip32 (build : Build) (S : SecpCrate) (seed : List UInt8)
    (path : String) (key : Secp256k1ExtendedPrivKey)
    (h : derive_secp256k1_path build S.secp256k1 seed path = .ok key) :
    ∃ indices master x y, parse_derivation_path build path = .ok indices ∧
      derive_secp256k1_master_key S seed = .ok master ∧
      S.master seed = some x ∧ StandsFor S master x ∧
      indices.foldlM S.CKDpriv x = some y ∧ StandsFor S key y ∧
      ∀ before index after, indices = before ++ index :: after →
        ∃ parent child, before.foldlM (derive_child S) master = .ok parent ∧
          derive_child S parent index = .ok child ∧ DerivesChild S parent child index := by
  obtain ⟨indices, hindices, h⟩ := bind_eq_ok h
  obtain ⟨master, hmaster, h⟩ := bind_eq_ok h
  have hmaster := ofResult_eq_ok.mp hmaster
  have hfold := ofResult_eq_ok.mp h
  obtain ⟨x, hx, hstands⟩ := derive_master_eq_ok hmaster
  obtain ⟨y, hy, hkey⟩ := hstands.descendant hfold
  refine ⟨indices, master, x, y, hindices, hmaster, hx, hstands, hy, hkey, ?_⟩
  rintro before index after rfl
  rw [List.foldlM_append] at hfold
  obtain ⟨parent, hparent, hrest⟩ := bind_eq_ok hfold
  rw [List.foldlM_cons] at hrest
  obtain ⟨child, hchild, -⟩ := bind_eq_ok hrest
  obtain ⟨z, -, hz⟩ := hstands.descendant hparent
  exact ⟨parent, child, hparent, hchild, hz.derivesChild hchild⟩

/-! ## The first test vector of BIP-32 -/

namespace TestVector

/-- The order of secp256k1. -/
def order : Nat := 0xfffffffffffffffffffffffffffffffebaaedce6af48a03bbfd25e8cd0364141

def seed : List UInt8 := be_bytes 16 0x000102030405060708090a0b0c0d0e0f

/-- The private keys of `m`, `m/0'` and `m/0'/1`. -/
def private_keys : List Nat :=
  [0xe8f32e723decf4051aefac8e2c93c9c5b214313817cdb01a1494b917c8436b35,
    0xedb2e14f9ee77d26dd93b4ecede8d16ed408ce149b6cd80b0715a2d911a0afea,
    0x3c6cb8d0f6a264c91ea8b5030fadaa8e538b020f0a387421a12de9319dc93368]

def public_keys : List Nat :=
  [0x0339a36013301597daef41fbe593a02cc513d0b55527ec2df1050e2e8ff49c85c2,
    0x035a784662a4a20a65bf6aab9ae98a6c068a81c52e4b032c0fb5400c706cfccc56,
    0x03501e454bf00751f24b1b489aa925215d66af2234e3891c3b21a52bedb3cd711c]

def chain_codes : List Nat :=
  [0x873dff81c02f525623fd1fe5167eac3a55a049de3d314bb42ee227ffed37d508,
    0x47fdacbd0f1097043b78c63c20c34ef4ed9a111d980047ad16282c7ae6236141,
    0x2a7857631386ba23dacac34180dd1983734e444fdbf774041578e9b6adb37c19]

/-- The left halves of the hashes for the two children. -/
def tweaks : List Nat :=
  [0x04bfb2dd60fa8921c2a4085ec15507a921f49cdc839f27f0f280e9c1495d44b5,
    0x4eb9d78157bae7a24115001621c4d91e3a3110e11e143c5259eaa4e55c5ec4bf]

/-- The three messages that are hashed, with the halves of their hashes. Zero for any other. -/
def hmac_halves (key message : List UInt8) : Nat × Nat :=
  if key = seed_key ∧ message = seed then (private_keys[0]!, chain_codes[0]!)
  else if key = be_bytes 32 chain_codes[0]! ∧
      message = 0 :: be_bytes 32 private_keys[0]! ++ be_bytes 4 0x80000000 then
    (tweaks[0]!, chain_codes[1]!)
  else if key = be_bytes 32 chain_codes[1]! ∧
      message = be_bytes 33 public_keys[1]! ++ be_bytes 4 1 then
    (tweaks[1]!, chain_codes[2]!)
  else (0, 0)

/-- A point is given by its discrete logarithm. -/
def crate : SecpCrate where
  n := order
  n_ne_zero := ⟨by decide⟩
  n_le := by decide
  Point := ZMod order
  group := inferInstance
  point := AddMonoidHom.id (ZMod order)
  point_ne_zero _ h := h
  serialize p := be_bytes 33 (((private_keys.zip public_keys).lookup p.val).getD 0)
  hmac key message := ⟨be_bytes 32 (hmac_halves key message).1 ++
    be_bytes 32 (hmac_halves key message).2, by simp⟩
  new_from_slice _ := none
  invalid_secret_key := "malformed or out-of-range secret key"
  invalid_tweak := "bad tweak"

/-- The key of `m/0'/1`. -/
def key : Secp256k1ExtendedPrivKey where
  private_key := ⟨be_bytes 32 private_keys[2]!, by simp⟩
  public_key := be_bytes 33 public_keys[2]!
  chain_code := be_bytes 32 chain_codes[2]!

end TestVector

theorem derive_secp256k1_path_bip32_mixed :
    ∃ x y, TestVector.crate.master TestVector.seed = some x ∧
      [0x80000000, 1].foldlM TestVector.crate.CKDpriv x = some y ∧
      StandsFor TestVector.crate TestVector.key y := by
  have hpath : parse_derivation_path ⟨true, true⟩ "m/0'/1" = .ok [0x80000000, 1] := by decide
  obtain ⟨indices, -, x, y, hindices, -, hx, -, hy, hkey, -⟩ :=
    derive_secp256k1_path_bip32 ⟨true, true⟩ TestVector.crate TestVector.seed "m/0'/1"
      TestVector.key (by decide +kernel)
  obtain rfl := Except.ok.inj (hpath.symm.trans hindices)
  exact ⟨x, y, hx, hy, hkey⟩

end Alknet.Secret
