import Alknet.Secret.Transparency

/-!
# Encrypt, any history, decrypt

Both sides take the key at the encryption path from the cache or derive it again. The
key is the same on both sides unless a secp256k1 key sits there on one side only.
-/

open Alknet.Rust Alknet.Lib

namespace Alknet.Secret

open SecretServiceInner

/-! ## The key that is used -/

/-- The type of the key that `encrypt` and `decrypt` use now: that of the live entry at the
encryption path, else AES. -/
def encryptionType (clock : Clock) (inner : SecretServiceInner) : KeyType :=
  match inner.cache.live clock PATHS.ENCRYPTION with
  | some entry => entry.key_type
  | none => .Aes256Gcm

def SecpLive (clock : Clock) (inner : SecretServiceInner) : Prop :=
  encryptionType clock inner = .Secp256k1

instance (clock : Clock) (inner : SecretServiceInner) : Decidable (SecpLive clock inner) :=
  inferInstanceAs (Decidable (_ = _))

theorem from_derived_bytes_vector (key : List.Vector UInt8 32) (key_version : UInt32) :
    EncryptionKey.from_derived_bytes key.toList key_version = .ok ⟨key, key_version⟩ := by
  have hlen : key.toList.length = 32 := by simp
  rw [EncryptionKey.from_derived_bytes, dif_pos (by omega)]
  congr 2
  apply List.Vector.eq
  exact List.take_of_length_le (by omega)

theorem with_encryption_key_fst {α : Type} {env : Env} {inner : SecretServiceInner} {seed : Seed}
    (h : Consistent env inner) (hseed : inner.seed = some seed) (clock : Clock)
    (key_version : UInt32) (use : EncryptionKey → Outcome EncryptionError α) :
    (with_encryption_key env clock key_version use inner).1 =
      match derivation env (encryptionType clock inner) seed.bytes PATHS.ENCRYPTION with
      | .error f => .error (f.into .of_derivation)
      | .ok pair =>
        match use ⟨pair.private_key, key_version⟩ with
        | .error f => .error (f.into .of_encryption)
        | .ok a => .ok a := by
  have hfst := cached_or_derive_fst (slip10 env) .Aes256Gcm clock PATHS.ENCRYPTION inner
  unfold with_encryption_key encryptionType
  rcases hc : cached_or_derive (slip10 env) .Aes256Gcm clock PATHS.ENCRYPTION inner with ⟨r, after⟩
  simp only [hc] at hfst
  cases hl : inner.cache.live clock PATHS.ENCRYPTION with
  | some entry =>
    obtain ⟨⟨seed', hseed', pair, hpair, hpriv, -⟩, -⟩ :=
      h.cacheable _ entry.key (KeyCache.live_holds hl)
    obtain rfl : seed = seed' := by simpa [hseed] using hseed'
    simp only [hl] at hfst
    simp only [hfst, hpriv, from_derived_bytes_vector,
      show entry.key.key_type = entry.key_type from rfl] at hpair ⊢
    simp only [hpair]
    cases use ⟨pair.private_key, key_version⟩ <;> rfl
  | none =>
    simp only [hl, derive_fresh, hseed] at hfst
    simp only [derivation]
    cases hd : slip10 env seed.bytes PATHS.ENCRYPTION with
    | error f => simp only [hd] at hfst; simp only [hfst]
    | ok pair =>
      simp only [hd] at hfst
      simp only [hfst, from_derived_bytes_vector]
      cases use ⟨pair.private_key, key_version⟩ <;> rfl

/-! ## The blob -/

/-- What is assumed of the crates: AES-GCM decrypts what it encrypted, Base64 decodes what it
encoded. -/
structure CipherLaws (C : Cipher) : Prop where
  decrypt_encrypt : ∀ key nonce text data,
    C.encrypt key nonce text = .ok data → C.decrypt key nonce data = .ok text
  base64_round_trip : ∀ bytes, C.base64_decode (C.base64_encode bytes) = .ok bytes

theorem encrypt_ok {C : Cipher} (laws : CipherLaws C) {iv_bytes : List.Vector UInt8 12}
    {salt_bytes : List.Vector UInt8 32} {plaintext : String} {key : EncryptionKey}
    {blob : EncryptedData} (h : encrypt C iv_bytes salt_bytes plaintext key = .ok blob) :
    ∃ data, C.encrypt key.key_bytes iv_bytes (as_bytes plaintext) = .ok data ∧
      blob.key_version = key.key_version ∧ C.base64_decode blob.iv = .ok iv_bytes.toList ∧
      C.base64_decode blob.data = .ok data := by
  unfold encrypt at h
  split at h
  · simp at h
  · rename_i data hdata
    simp only [Except.ok.injEq] at h
    subst h
    exact ⟨data, hdata, rfl, laws.base64_round_trip _, laws.base64_round_trip _⟩

theorem decrypt_decoded {C : Cipher} {iv_bytes : List.Vector UInt8 12} {data : List UInt8}
    {blob : EncryptedData} (hiv : C.base64_decode blob.iv = .ok iv_bytes.toList)
    (hdata : C.base64_decode blob.data = .ok data) (key : EncryptionKey) (text : String) :
    decrypt C blob key = .ok text ↔
      C.decrypt key.key_bytes iv_bytes data = .ok (as_bytes text) := by
  have hlen : iv_bytes.toList.length = 12 := by simp
  have hnonce : (⟨iv_bytes.toList, hlen⟩ : List.Vector UInt8 12) = iv_bytes := rfl
  simp only [decrypt, hiv, hdata, dif_pos hlen, hnonce]
  cases C.decrypt key.key_bytes iv_bytes data with
  | error e => simp
  | ok plain =>
    cases hp : from_utf8 plain with
    | none =>
      simp only [hp, reduceCtorEq, Except.ok.injEq, false_iff]
      rintro rfl
      simp [from_utf8_as_bytes] at hp
    | some s =>
      simp only [hp, Except.ok.injEq]
      constructor
      · rintro rfl; exact eq_as_bytes_of_from_utf8 hp
      · rintro rfl; simpa [from_utf8_as_bytes] using hp.symm

/-! ## The two calls -/

/-- The service holds this mnemonic, and the seed that it has with this passphrase. -/
structure UnlockedWith (env : Env) (mnemonic : Mnemonic) (passphrase : Option String)
    (inner : SecretServiceInner) : Prop where
  unlocked : inner.unlocked = true
  has_mnemonic : inner.mnemonic = some mnemonic
  has_seed : ∃ seed, mnemonic.to_seed env.bip39 passphrase = .ok seed ∧ inner.seed = some seed

theorem encrypt_call_ok {env : Env} {handle : SecretServiceHandle} {seed : Seed} {clock : Clock}
    {plaintext : String} {key_version : UInt32} {iv_bytes : List.Vector UInt8 12}
    {salt_bytes : List.Vector UInt8 32} {blob : EncryptedData} (h : Sound env handle)
    (hun : handle.inner.unlocked = true) (hseed : handle.inner.seed = some seed)
    (henc : (handle.call env clock (.encrypt plaintext key_version iv_bytes salt_bytes)).1 =
      .ok (.blob blob)) :
    ∃ pair, derivation env (encryptionType clock handle.inner) seed.bytes PATHS.ENCRYPTION =
        .ok pair ∧
      encrypt env.cipher iv_bytes salt_bytes plaintext ⟨pair.private_key, key_version⟩ =
        .ok blob := by
  simp only [SecretServiceHandle.call, Prod.map_fst, SecretServiceInner.encrypt,
    write_unless_locked handle _ h.1 hun, with_encryption_key_fst h.2 hseed] at henc
  cases hd : derivation env (encryptionType clock handle.inner) seed.bytes PATHS.ENCRYPTION with
  | error f => simp [hd, Except.map] at henc
  | ok pair =>
    refine ⟨pair, rfl, ?_⟩
    simp only [hd] at henc
    cases he : encrypt env.cipher iv_bytes salt_bytes plaintext ⟨pair.private_key, key_version⟩ with
    | error f => simp [he, Except.map] at henc
    | ok b => simpa [he, Except.map] using henc

theorem decrypt_call_iff {env : Env} {handle : SecretServiceHandle} {seed : Seed} {clock : Clock}
    {blob : EncryptedData} {text : String} (h : Sound env handle)
    (hun : handle.inner.unlocked = true) (hseed : handle.inner.seed = some seed) :
    (handle.call env clock (.decrypt blob)).1 = .ok (.text text) ↔
      ∃ pair, derivation env (encryptionType clock handle.inner) seed.bytes PATHS.ENCRYPTION =
          .ok pair ∧
        decrypt env.cipher blob ⟨pair.private_key, blob.key_version⟩ = .ok text := by
  simp only [SecretServiceHandle.call, Prod.map_fst, SecretServiceInner.decrypt,
    write_unless_locked handle _ h.1 hun, with_encryption_key_fst h.2 hseed]
  cases derivation env (encryptionType clock handle.inner) seed.bytes PATHS.ENCRYPTION with
  | error f => simp [Except.map]
  | ok pair =>
    simp only [Except.ok.injEq, exists_eq_left']
    cases decrypt env.cipher blob ⟨pair.private_key, blob.key_version⟩ <;> simp [Except.map]

/-- Of the two keys that the curves give at the encryption path, neither decrypts what the other
encrypted here. -/
def KeysApart (env : Env) (mnemonic : Mnemonic) (passphrase : Option String)
    (iv_bytes : List.Vector UInt8 12) (plaintext : String) : Prop :=
  let refuses (key key' : List.Vector UInt8 32) : Prop :=
    ∀ data, env.cipher.encrypt key iv_bytes (as_bytes plaintext) = .ok data →
      env.cipher.decrypt key' iv_bytes data ≠ .ok (as_bytes plaintext)
  ∀ seed a b, mnemonic.to_seed env.bip39 passphrase = .ok seed →
    slip10 env seed.bytes PATHS.ENCRYPTION = .ok a →
    bip32 env seed.bytes PATHS.ENCRYPTION = .ok b →
    refuses a.private_key b.private_key ∧ refuses b.private_key a.private_key

theorem derivation_of_ne (env : Env) {t : KeyType} (h : t ≠ .Secp256k1) :
    derivation env t = slip10 env := by
  cases t with
  | Ed25519 => rfl
  | Aes256Gcm => rfl
  | Secp256k1 => exact absurd rfl h

theorem derivation_congr (env : Env) {s t : KeyType} (h : s = .Secp256k1 ↔ t = .Secp256k1) :
    derivation env s = derivation env t := by
  by_cases hs : s = .Secp256k1
  · rw [hs, h.mp hs]
  · rw [derivation_of_ne env hs, derivation_of_ne env (mt h.mpr hs)]

theorem derivation_apart {env : Env} {mnemonic : Mnemonic} {passphrase : Option String}
    {iv_bytes : List.Vector UInt8 12} {plaintext : String}
    (hk : KeysApart env mnemonic passphrase iv_bytes plaintext) {seed : Seed}
    (hseed : mnemonic.to_seed env.bip39 passphrase = .ok seed) {s t : KeyType}
    (h : ¬ (s = .Secp256k1 ↔ t = .Secp256k1)) {a b : KeyPair}
    (ha : derivation env s seed.bytes PATHS.ENCRYPTION = .ok a)
    (hb : derivation env t seed.bytes PATHS.ENCRYPTION = .ok b) {data : List UInt8}
    (hdata : env.cipher.encrypt a.private_key iv_bytes (as_bytes plaintext) = .ok data) :
    env.cipher.decrypt b.private_key iv_bytes data ≠ .ok (as_bytes plaintext) := by
  by_cases hs : s = .Secp256k1
  · have ht : t ≠ .Secp256k1 := fun ht => h ⟨fun _ => ht, fun _ => hs⟩
    rw [hs] at ha
    rw [derivation_of_ne env ht] at hb
    exact (hk seed b a hseed hb ha).2 data hdata
  · have ht : t = .Secp256k1 := by
      by_contra ht
      exact h ⟨fun e => absurd e hs, fun e => absurd e ht⟩
    rw [derivation_of_ne env hs] at ha
    rw [ht] at hb
    exact (hk seed a b hseed ha hb).1 data hdata

/-- **Round trip over histories,** if a secp256k1 key is live at the encryption path at both calls
or at neither. -/
theorem decrypt_encrypt_iff (env : Env) (laws : CipherLaws env.cipher) (config : CacheConfig)
    (before : List (Clock × Call)) (handle : SecretServiceHandle)
    (h : Reached env config before handle) (mnemonic : Mnemonic) (passphrase : Option String)
    (hun : UnlockedWith env mnemonic passphrase handle.inner) (clock : Clock) (plaintext : String)
    (key_version : UInt32) (iv_bytes : List.Vector UInt8 12) (salt_bytes : List.Vector UInt8 32)
    (blob : EncryptedData)
    (henc : (handle.call env clock (.encrypt plaintext key_version iv_bytes salt_bytes)).1 =
      .ok (.blob blob))
    (further : List (Clock × Call)) (handle' : SecretServiceHandle)
    (h' : run (SecretServiceHandle.step env)
      (handle.call env clock (.encrypt plaintext key_version iv_bytes salt_bytes)).2 further =
        some handle')
    (hun' : UnlockedWith env mnemonic passphrase handle'.inner) (clock' : Clock) :
    ((SecpLive clock handle.inner ↔ SecpLive clock' handle'.inner) →
      (handle'.call env clock' (.decrypt blob)).1 = .ok (.text plaintext)) ∧
    (¬ (SecpLive clock handle.inner ↔ SecpLive clock' handle'.inner) →
      KeysApart env mnemonic passphrase iv_bytes plaintext →
      (handle'.call env clock' (.decrypt blob)).1 ≠ .ok (.text plaintext)) := by
  have hs := reached_sound h
  have hs' : Sound env handle' := by
    apply run_keeps step_sound _ h'
    apply step_sound handle (clock, .encrypt plaintext key_version iv_bytes salt_bytes) _ hs
    rw [step_eq_some]
    exact ⟨by rw [henc]; exact returns_ok _, rfl⟩
  obtain ⟨seed, hseed, hin⟩ := hun.has_seed
  obtain ⟨seed', hseed', hin'⟩ := hun'.has_seed
  obtain rfl : seed = seed' := by simpa [hseed] using hseed'
  obtain ⟨pair, hpair, hblob⟩ := encrypt_call_ok hs hun.unlocked hin henc
  obtain ⟨data, hdata, hver, hiv, hdat⟩ := encrypt_ok laws hblob
  rw [ne_eq, decrypt_call_iff hs' hun'.unlocked hin']
  constructor
  · intro hiff
    refine ⟨pair, ?_, ?_⟩
    · rw [← derivation_congr env hiff]; exact hpair
    · rw [decrypt_decoded hiv hdat]
      exact laws.decrypt_encrypt _ _ _ _ hdata
  · rintro hne hk ⟨pair', hpair', hdec⟩
    rw [decrypt_decoded hiv hdat] at hdec
    exact derivation_apart hk hseed hne hpair hpair' hdata hdec

theorem sampleCipher_laws : CipherLaws sampleCipher where
  decrypt_encrypt := by
    intro key nonce text data h
    have htag : (key.toList.take 16).length = 16 := by simp
    simp only [sampleCipher, Except.ok.injEq] at h ⊢
    subst h
    rw [if_pos]
    · simp [htag]
    · simp [htag]
  base64_round_trip := by
    intro bytes
    simp [sampleCipher, Base64.decode_encode]

def sampleEncrypt : Call :=
  .encrypt "hi" 1 (List.Vector.replicate 12 0) (List.Vector.replicate 32 0)

def sampleRelock : List (Clock × Call) := [(⟨3, 3⟩, .lock), (⟨4, 4⟩, .unlock samplePhrase none)]

/-- An Ethereum key is cached at the encryption path. -/
def sampleEthereum : List (Clock × Call) :=
  [(⟨0, 0⟩, .unlock samplePhrase none), (⟨1, 1⟩, .derive_ethereum_key PATHS.ENCRYPTION)]

theorem sampleEnv_keysApart :
    KeysApart (sampleEnv true) ⟨samplePhrase⟩ none (List.Vector.replicate 12 0) "hi" := by
  rintro seed a b ⟨⟩ ⟨⟩ ⟨⟩
  constructor
  · rintro data ⟨⟩
    decide
  · rintro data ⟨⟩
    decide

theorem decrypt_encrypt_sample :
    (∃ handle blob handle', Reached (sampleEnv true) sampleConfig sampleHistory handle ∧
      (handle.call (sampleEnv true) ⟨2, 2⟩ sampleEncrypt).1 = .ok (.blob blob) ∧
      run (SecretServiceHandle.step (sampleEnv true))
        (handle.call (sampleEnv true) ⟨2, 2⟩ sampleEncrypt).2 sampleRelock = some handle' ∧
      (handle'.call (sampleEnv true) ⟨5, 5⟩ (.decrypt blob)).1 = .ok (.text "hi")) ∧
    ∃ handle blob handle', Reached (sampleEnv true) sampleConfig sampleEthereum handle ∧
      (handle.call (sampleEnv true) ⟨2, 2⟩ sampleEncrypt).1 = .ok (.blob blob) ∧
      run (SecretServiceHandle.step (sampleEnv true))
        (handle.call (sampleEnv true) ⟨2, 2⟩ sampleEncrypt).2 sampleRelock = some handle' ∧
      (handle'.call (sampleEnv true) ⟨5, 5⟩ (.decrypt blob)).1 ≠ .ok (.text "hi") := by
  refine ⟨⟨_, _, _, rfl, rfl, rfl, ?_⟩, _, _, _, rfl, rfl, rfl, ?_⟩
  · apply (decrypt_encrypt_iff (sampleEnv true) sampleCipher_laws sampleConfig sampleHistory _ rfl
      ⟨samplePhrase⟩ none ⟨rfl, rfl, _, rfl, rfl⟩ ⟨2, 2⟩ "hi" 1 _ _ _ rfl sampleRelock _ rfl
      ⟨rfl, rfl, _, rfl, rfl⟩ ⟨5, 5⟩).1
    decide
  · refine (decrypt_encrypt_iff (sampleEnv true) sampleCipher_laws sampleConfig sampleEthereum _ rfl
      ⟨samplePhrase⟩ none ⟨rfl, rfl, _, rfl, rfl⟩ ⟨2, 2⟩ "hi" 1 _ _ _ rfl sampleRelock _ rfl
      ⟨rfl, rfl, _, rfl, rfl⟩ ⟨5, 5⟩).2 ?_ sampleEnv_keysApart
    decide

/-- With an Ethereum key cached at the encryption path, `encrypt` uses that key. -/
theorem decrypt_encrypt_lost :
    ∃ handle blob handle', Reached (sampleEnv true) sampleConfig sampleEthereum handle ∧
      UnlockedWith (sampleEnv true) ⟨samplePhrase⟩ none handle.inner ∧
      (handle.call (sampleEnv true) ⟨2, 2⟩ sampleEncrypt).1 = .ok (.blob blob) ∧
      run (SecretServiceHandle.step (sampleEnv true))
        (handle.call (sampleEnv true) ⟨2, 2⟩ sampleEncrypt).2 sampleRelock = some handle' ∧
      UnlockedWith (sampleEnv true) ⟨samplePhrase⟩ none handle'.inner ∧
      (handle'.call (sampleEnv true) ⟨5, 5⟩ (.decrypt blob)).1 =
        .error (.err (.Encryption "decryption error: aead::Error")) :=
  ⟨_, _, _, rfl, ⟨rfl, rfl, _, rfl, rfl⟩, rfl, rfl, ⟨rfl, rfl, _, rfl, rfl⟩, rfl⟩

end Alknet.Secret
