import Alknet.Code.Secret.Cache
import Alknet.Code.Secret.Derivation
import Alknet.Code.Secret.Encryption

/-!
# service.rs: the handle and its calls

`SecretServiceHandle` is an `Arc<RwLock<SecretServiceInner>>`. Each call takes the lock
for its whole body, so calls are atomic and a history is a list of calls.
-/

open Alknet.Rust

namespace Alknet.Secret

/-- The build and the crates that the service is linked against. -/
structure Env where
  build : Build
  bip39 : Bip39
  ed25519 : Ed25519Bip32
  secp : Secp256k1
  cipher : Cipher

structure DerivedKey where
  key_type : KeyType
  private_key : List UInt8
  public_key : List UInt8
  deriving DecidableEq, Repr

inductive SecretServiceError
  | ServiceLocked
  | AlreadyUnlocked
  | Mnemonic (reason : String)
  | Derivation (reason : String)
  | Encryption (reason : String)
  | InvalidPath (reason : String)
  | UnsupportedKeyType
  deriving DecidableEq, Repr

def SecretServiceError.of_mnemonic (e : MnemonicError) : SecretServiceError := .Mnemonic e.to_string
def SecretServiceError.of_derivation (e : DerivationError) : SecretServiceError :=
  .Derivation e.to_string
def SecretServiceError.of_encryption (e : EncryptionError) : SecretServiceError :=
  .Encryption e.to_string

structure SecretServiceInner where
  mnemonic : Option Mnemonic
  seed : Option Seed
  unlocked : Bool
  cache : KeyCache

structure SecretServiceHandle where
  inner : SecretServiceInner
  poisoned : Bool

def SecretServiceHandle.with_cache_config (config : CacheConfig) : SecretServiceHandle where
  inner := { mnemonic := none, seed := none, unlocked := false, cache := KeyCache.new config }
  poisoned := false

/-! ## The bodies, under the lock -/

namespace SecretServiceInner

variable (env : Env)

def load (mnemonic : Mnemonic) (seed : Seed) (inner : SecretServiceInner) : SecretServiceInner :=
  { inner with mnemonic := some mnemonic, seed := some seed, unlocked := true }

def unlock (phrase : String) (passphrase : Option String) (inner : SecretServiceInner) :
    Outcome SecretServiceError Unit × SecretServiceInner :=
  if inner.unlocked then (.error (.err .AlreadyUnlocked), inner)
  else
    match Mnemonic.from_phrase env.bip39 phrase with
    | .error e => (.error (.err (.of_mnemonic e)), inner)
    | .ok mnemonic =>
      match mnemonic.to_seed env.bip39 passphrase with
      | .error f => (.error (f.into .of_mnemonic), inner)
      | .ok seed => (.ok (), inner.load mnemonic seed)

def unlock_new (word_count : Nat) (entropy : List UInt8) (inner : SecretServiceInner) :
    Outcome SecretServiceError String × SecretServiceInner :=
  if inner.unlocked then (.error (.err .AlreadyUnlocked), inner)
  else
    match Mnemonic.generate env.bip39 word_count entropy with
    | .error e => (.error (.err (.of_mnemonic e)), inner)
    | .ok mnemonic =>
      match mnemonic.to_seed env.bip39 none with
      | .error f => (.error (f.into .of_mnemonic), inner)
      | .ok seed => (.ok mnemonic.phrase, inner.load mnemonic seed)

def lock (inner : SecretServiceInner) : SecretServiceInner :=
  { mnemonic := none, seed := none, unlocked := false, cache := inner.cache.clear }

structure KeyPair where
  private_key : List.Vector UInt8 32
  public_key : List UInt8
  deriving DecidableEq

def slip10 (seed : List UInt8) (path : String) : Outcome DerivationError KeyPair := do
  let key ← derive_path_from_seed env.build env.ed25519 seed path
  return ⟨key.private_key, key.public_key⟩

def bip32 (seed : List UInt8) (path : String) : Outcome DerivationError KeyPair := do
  let key ← derive_secp256k1_path env.build env.secp seed path
  return ⟨key.private_key, key.public_key⟩

/-- The body that the three key calls, `encrypt` and `decrypt` share: the cached key at the
path, whatever its type, else a derived one, which is then cached. -/
def cached_or_derive (derive : List UInt8 → String → Outcome DerivationError KeyPair)
    (key_type : KeyType) (clock : Clock) (path : String) (inner : SecretServiceInner) :
    Outcome SecretServiceError DerivedKey × SecretServiceInner :=
  match inner.cache.get clock path with
  | (some cached, cache) =>
    (.ok ⟨cached.key_type, cached.private_key, cached.public_key⟩, { inner with cache := cache })
  | (none, cache) =>
    match inner.seed with
    | none => (.error (.err .ServiceLocked), { inner with cache := cache })
    | some seed =>
      match derive seed.bytes path with
      | .error f => (.error (f.into .of_derivation), { inner with cache := cache })
      | .ok key =>
        let cached := CachedKey.new clock.stamp key_type key.private_key.toList key.public_key
        (.ok ⟨key_type, key.private_key.toList, key.public_key⟩,
          { inner with cache := cache.insert path cached })

/-- `if !inner.unlocked { return Err(ServiceLocked) }`. -/
def unless_locked {α : Type}
    (body : SecretServiceInner → Outcome SecretServiceError α × SecretServiceInner)
    (inner : SecretServiceInner) : Outcome SecretServiceError α × SecretServiceInner :=
  if inner.unlocked then body inner else (.error (.err .ServiceLocked), inner)

def derive_ed25519 (clock : Clock) (path : String) :=
  unless_locked (cached_or_derive (slip10 env) .Ed25519 clock path)

def derive_encryption_key (clock : Clock) (path : String) :=
  unless_locked (cached_or_derive (slip10 env) .Aes256Gcm clock path)

/-- The body under the `secp256k1` feature. -/
def derive_ethereum_key (clock : Clock) (path : String) :=
  unless_locked (cached_or_derive (bip32 env) .Secp256k1 clock path)

/-- Under a read guard: the state does not change. -/
def derive_password (path : String) (length : Nat) (inner : SecretServiceInner) :
    Outcome SecretServiceError (List UInt8) :=
  if inner.unlocked then
    match inner.seed with
    | none => .error (.err .ServiceLocked)
    | some seed =>
      match slip10 env seed.bytes path with
      | .error f => .error (f.into .of_derivation)
      | .ok key => .ok (key.private_key.toList.take (min length key.private_key.toList.length))
  else .error (.err .ServiceLocked)

/-- What `encrypt` and `decrypt` do with the private key at `PATHS::ENCRYPTION`. -/
def with_encryption_key {α : Type} (clock : Clock) (key_version : UInt32)
    (use : EncryptionKey → Outcome EncryptionError α) (inner : SecretServiceInner) :
    Outcome SecretServiceError α × SecretServiceInner :=
  match cached_or_derive (slip10 env) .Aes256Gcm clock PATHS.ENCRYPTION inner with
  | (.error f, inner) => (.error f, inner)
  | (.ok key, inner) =>
    match EncryptionKey.from_derived_bytes key.private_key key_version with
    | .error f => (.error (f.into .of_encryption), inner)
    | .ok enc_key =>
      match use enc_key with
      | .error f => (.error (f.into .of_encryption), inner)
      | .ok a => (.ok a, inner)

def encrypt (clock : Clock) (iv_bytes : List.Vector UInt8 12) (salt_bytes : List.Vector UInt8 32)
    (plaintext : String) (key_version : UInt32) :=
  unless_locked (with_encryption_key env clock key_version
    (Secret.encrypt env.cipher iv_bytes salt_bytes plaintext))

def decrypt (clock : Clock) (encrypted : EncryptedData) :=
  unless_locked (with_encryption_key env clock encrypted.key_version
    (Secret.decrypt env.cipher encrypted))

end SecretServiceInner

/-! ## The lock -/

namespace SecretServiceHandle

/-- `self.inner.write().unwrap()`, then the body. A panic in it poisons the lock. -/
def write {ε α : Type} (body : SecretServiceInner → Outcome ε α × SecretServiceInner)
    (handle : SecretServiceHandle) : Outcome ε α × SecretServiceHandle :=
  if handle.poisoned then (.error (.panic .poisonedLock), handle)
  else
    let (result, inner) := body handle.inner
    (result, ⟨inner, !returned result⟩)

/-- `self.inner.read().unwrap()`, then the body. A panic under a read guard poisons nothing. -/
def read {ε α : Type} (body : SecretServiceInner → Outcome ε α)
    (handle : SecretServiceHandle) : Outcome ε α × SecretServiceHandle :=
  if handle.poisoned then (.error (.panic .poisonedLock), handle)
  else (body handle.inner, handle)

end SecretServiceHandle

/-! ## The calls -/

/-- A call on the handle, with the random bytes that it draws. -/
inductive Call
  | unlock (phrase : String) (passphrase : Option String)
  | unlock_new (word_count : Nat) (entropy : List UInt8)
  | lock
  | is_unlocked
  | derive_ed25519 (path : String)
  | derive_encryption_key (path : String)
  | derive_ethereum_key (path : String)
  | derive_password (path : String) (length : Nat)
  | encrypt (plaintext : String) (key_version : UInt32) (iv_bytes : List.Vector UInt8 12)
      (salt_bytes : List.Vector UInt8 32)
  | decrypt (encrypted : EncryptedData)

inductive Reply
  | unit
  | flag (unlocked : Bool)
  | phrase (phrase : String)
  | key (key : DerivedKey)
  | bytes (bytes : List UInt8)
  | blob (encrypted : EncryptedData)
  | text (plaintext : String)
  deriving DecidableEq, Repr

open SecretServiceInner in
def SecretServiceHandle.call (env : Env) (clock : Clock) (handle : SecretServiceHandle) :
    Call → Outcome SecretServiceError Reply × SecretServiceHandle
  | .unlock phrase passphrase =>
    (handle.write (SecretServiceInner.unlock env phrase passphrase)).map
      (·.map fun _ => .unit) id
  | .unlock_new word_count entropy =>
    (handle.write (SecretServiceInner.unlock_new env word_count entropy)).map (·.map .phrase) id
  | .lock => handle.write fun inner => (.ok .unit, inner.lock)
  | .is_unlocked => handle.read fun inner => .ok (.flag inner.unlocked)
  | .derive_ed25519 path =>
    (handle.write (SecretServiceInner.derive_ed25519 env clock path)).map (·.map .key) id
  | .derive_encryption_key path =>
    (handle.write (SecretServiceInner.derive_encryption_key env clock path)).map (·.map .key) id
  | .derive_ethereum_key path =>
    -- Without the feature the call does not even take the lock.
    if env.build.secp256k1 then
      (handle.write (SecretServiceInner.derive_ethereum_key env clock path)).map (·.map .key) id
    else (.error (.err .UnsupportedKeyType), handle)
  | .derive_password path length =>
    (handle.read (SecretServiceInner.derive_password env path length)).map (·.map .bytes) id
  | .encrypt plaintext key_version iv_bytes salt_bytes =>
    (handle.write
      (SecretServiceInner.encrypt env clock iv_bytes salt_bytes plaintext key_version)).map
      (·.map .blob) id
  | .decrypt encrypted =>
    (handle.write (SecretServiceInner.decrypt env clock encrypted)).map (·.map .text) id

/-- A step of a history: a call, at a time, that returned. -/
def SecretServiceHandle.step (env : Env) (handle : SecretServiceHandle) (at_call : Clock × Call) :
    Option SecretServiceHandle :=
  let (result, handle) := handle.call env at_call.1 at_call.2
  if returned result then some handle else none

end Alknet.Secret
