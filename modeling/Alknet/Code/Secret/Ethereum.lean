import Alknet.Code.Secret.Derivation
import Alknet.Lib.Bip32

/-!
# BIP-0032 keys, `ethereum.rs`

The crates `secp256k1`, `hmac` and `sha2` are parameters: a group with a map from the scalars, and
any hash. A `SecretKey` is a scalar that is not zero.
-/

open Alknet.Rust Alknet.Lib.Bip32

namespace Alknet.Secret

/-- The crates under `ethereum.rs`, with their errors as texts. -/
structure SecpCrate extends Setting where
  -- why `HmacSha512::new_from_slice` refuses a key
  new_from_slice : List UInt8 → Option String
  invalid_secret_key : String
  invalid_tweak : String

namespace SecpCrate

variable (S : SecpCrate)

def SecretKey : Type := { k : ZMod S.n // k ≠ 0 }

/-- `SecretKey::from_slice` -/
def from_slice (data : List UInt8) : Except String S.SecretKey :=
  if h : data.length = 32 ∧ be_nat data < S.n ∧ (be_nat data : ZMod S.n) ≠ 0 then
    .ok ⟨be_nat data, h.2.2⟩
  else .error S.invalid_secret_key

/-- `SecretKey::secret_bytes` -/
def secret_bytes (key : S.SecretKey) : List.Vector UInt8 32 :=
  ⟨be_bytes 32 key.1.val, length_be_bytes 32 key.1.val⟩

/-- `SecretKey::add_tweak`. The tweak comes from a secret key, so it is less than the order. -/
def add_tweak (key tweak : S.SecretKey) : Except String S.SecretKey :=
  if h : key.1 + tweak.1 ≠ 0 then .ok ⟨key.1 + tweak.1, h⟩ else .error S.invalid_tweak

/-- `PublicKey::from_secret_key` -/
def from_secret_key (key : S.SecretKey) : S.Point := S.point key.1

/-- `HmacSha512::new_from_slice` -/
def new_mac (key : List UInt8) : Except DerivationError Unit :=
  match S.new_from_slice key with
  | some e => .error (.Hmac e)
  | none => .ok ()

/-- The key that both derivations return. -/
def extended (secret_key : S.SecretKey) (chain_code : List UInt8) :
    Secp256k1ExtendedPrivKey where
  private_key := S.secret_bytes secret_key
  public_key := S.serialize (S.from_secret_key secret_key)
  chain_code := chain_code

end SecpCrate

def HARDENED_OFFSET : UInt32 := 0x80000000

def derive_secp256k1_master_key (S : SecpCrate) (seed : List UInt8) :
    Except DerivationError Secp256k1ExtendedPrivKey := do
  S.new_mac (as_bytes "Bitcoin seed")
  let result := S.hmac (as_bytes "Bitcoin seed") seed
  let private_key_bytes := result.toList.take 32
  let chain_code_bytes := result.toList.drop 32
  let secret_key ← (S.from_slice private_key_bytes).mapError .Secp256k1
  return S.extended secret_key chain_code_bytes

def derive_child (S : SecpCrate) (parent : Secp256k1ExtendedPrivKey) (index : UInt32) :
    Except DerivationError Secp256k1ExtendedPrivKey := do
  S.new_mac parent.chain_code
  let data := if HARDENED_OFFSET ≤ index then 0x00 :: parent.private_key.toList
    else parent.public_key
  -- the last update of the mac is `index.to_be_bytes()`
  let result := S.hmac parent.chain_code (data ++ be_bytes 4 index.toNat)
  let child_key_bytes := result.toList.take 32
  let child_chain_code := result.toList.drop 32
  let parent_secret ← (S.from_slice parent.private_key.toList).mapError .Secp256k1
  let child_key_raw ← (S.from_slice child_key_bytes).mapError .Secp256k1
  let child_secret ← (S.add_tweak parent_secret child_key_raw).mapError .Secp256k1
  return S.extended child_secret child_chain_code

/-- What `derive_secp256k1_path` calls. -/
def SecpCrate.secp256k1 (S : SecpCrate) : Secp256k1 where
  master := derive_secp256k1_master_key S
  child := derive_child S

end Alknet.Secret
