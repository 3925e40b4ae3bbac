import Alknet.Rust.Net
import Alknet.Rust.Outcome
import Alknet.Rust.Str
import Mathlib.Algebra.Group.Nat.Defs
import Mathlib.Data.Vector.Defs

/-!
# Mnemonics, paths and derived keys

`mnemonic.rs`, `derivation.rs` and the entry point of `ethereum.rs`. The crates
under them (`bip39`, `ed25519-bip32`, `secp256k1`) are parameters: any functions
with the types that the crates have.
-/

open Alknet.Rust

namespace Alknet.Secret

/-- What the compiler was told: overflow checks (a debug build) and the `secp256k1` feature. -/
structure Build where
  overflow_checks : Bool
  secp256k1 : Bool
  deriving DecidableEq, Repr

/-! ## mnemonic.rs -/

/-- The `bip39` crate. `generate` also gets the random bytes that it draws. -/
structure Bip39 where
  Parsed : Type
  parse_normalized : String → Except String Parsed
  generate : Nat → List UInt8 → Except String Parsed
  to_string : Parsed → String
  to_seed_normalized : Parsed → String → List.Vector UInt8 64

inductive MnemonicError
  | Generation (reason : String)
  | InvalidPhrase (reason : String)
  deriving DecidableEq, Repr

def MnemonicError.to_string : MnemonicError → String
  | .Generation reason => "failed to generate mnemonic: " ++ reason
  | .InvalidPhrase reason => "invalid mnemonic phrase: " ++ reason

structure Mnemonic where
  phrase : String
  deriving DecidableEq, Repr

structure Seed where
  bytes : List UInt8
  deriving DecidableEq, Repr

def Mnemonic.generate (B : Bip39) (word_count : Nat) (entropy : List UInt8) :
    Except MnemonicError Mnemonic :=
  match B.generate word_count entropy with
  | .error e => .error (.Generation e)
  | .ok mnemonic => .ok ⟨B.to_string mnemonic⟩

def Mnemonic.from_phrase (B : Bip39) (phrase : String) : Except MnemonicError Mnemonic :=
  match B.parse_normalized phrase with
  | .error e => .error (.InvalidPhrase e)
  | .ok mnemonic => .ok ⟨B.to_string mnemonic⟩

/-- The stored phrase is parsed again, with `unwrap`. -/
def Mnemonic.to_seed (B : Bip39) (m : Mnemonic) (passphrase : Option String) :
    Outcome MnemonicError Seed :=
  match B.parse_normalized m.phrase with
  | .error _ => .error (.panic .unwrapOnErr)
  | .ok mnemonic => .ok ⟨(B.to_seed_normalized mnemonic (passphrase.getD "")).toList⟩

/-! ## derivation.rs -/

inductive DerivationError
  | InvalidPath (reason : String)
  | Hmac (reason : String)
  | KeyDerivation (reason : String)
  | Locked
  | Secp256k1 (reason : String)
  | UnsupportedKeyType
  deriving DecidableEq, Repr

def DerivationError.to_string : DerivationError → String
  | .InvalidPath reason => "invalid derivation path: " ++ reason
  | .Hmac reason => "HMAC error: " ++ reason
  | .KeyDerivation reason => "key derivation error: " ++ reason
  | .Locked => "seed is not unlocked"
  | .Secp256k1 reason => "secp256k1 error: " ++ reason
  | .UnsupportedKeyType => "unsupported key type"

namespace PATHS

def ENCRYPTION : String := "m/74'/2'/0'/0'"

end PATHS

def device_path (index : UInt32) : String :=
  "m/74'/0'/0'/" ++ String.ofList (show_number 10 index.toNat) ++ "'"

def site_password_path (site_hash : String) : String := "m/74'/1'/0'/" ++ site_hash ++ "'"

def apostrophe : Char := Char.ofNat 39

def parse_component (build : Build) (part : List Char) : Outcome DerivationError UInt32 :=
  let hardened := ends_with_char apostrophe part || ends_with_char 'h' part
  let index_str := trim_end_matches 'h' (trim_end_matches apostrophe part)
  match parse_u32 index_str with
  | none => .error (.err (.InvalidPath ("invalid index: " ++ String.ofList part)))
  | some index =>
    if hardened then
      if build.overflow_checks && 2 ^ 32 ≤ index.toNat + 0x80000000 then
        .error (.panic .arithmeticOverflow)
      else .ok (index + 0x80000000)
    else .ok index

def parse_derivation_path (build : Build) (path : String) :
    Outcome DerivationError (List UInt32) :=
  if path.toList.head? = some 'm' then
    ((path.toList.splitOn '/').drop 1).mapM (parse_component build)
  else .error (.err (.InvalidPath "path must start with 'm'"))

/-- The `ed25519-bip32` crate. `master` is `derive_master_key`, HMAC included. -/
structure Ed25519Bip32 where
  XPrv : Type
  master : List UInt8 → Except DerivationError XPrv
  derive : XPrv → UInt32 → XPrv
  extended_secret_key_bytes : XPrv → List.Vector UInt8 64
  public_bytes : XPrv → List.Vector UInt8 64
  chain_code : XPrv → List.Vector UInt8 32

structure ExtendedPrivKey where
  private_key : List.Vector UInt8 32
  public_key : List UInt8
  chain_code : List UInt8
  path : String
  deriving DecidableEq

def derive_path_from_seed (build : Build) (E : Ed25519Bip32) (seed : List UInt8) (path : String) :
    Outcome DerivationError ExtendedPrivKey := do
  let indices ← parse_derivation_path build path
  let xprv ← ofResult (E.master seed)
  let current := indices.foldl E.derive xprv
  return {
    private_key := (E.extended_secret_key_bytes current).take 32
    public_key := (E.public_bytes current).toList.take 32
    chain_code := (E.chain_code current).toList
    path := path }

/-! ## ethereum.rs -/

structure Secp256k1ExtendedPrivKey where
  private_key : List.Vector UInt8 32
  public_key : List UInt8
  chain_code : List UInt8
  deriving DecidableEq

/-- BIP-0032 over secp256k1: `derive_secp256k1_master_key` and `derive_child`. -/
structure Secp256k1 where
  master : List UInt8 → Except DerivationError Secp256k1ExtendedPrivKey
  child : Secp256k1ExtendedPrivKey → UInt32 → Except DerivationError Secp256k1ExtendedPrivKey

def derive_secp256k1_path (build : Build) (K : Secp256k1) (seed : List UInt8) (path : String) :
    Outcome DerivationError Secp256k1ExtendedPrivKey := do
  let indices ← parse_derivation_path build path
  let master ← ofResult (K.master seed)
  ofResult (indices.foldlM K.child master)

end Alknet.Secret
