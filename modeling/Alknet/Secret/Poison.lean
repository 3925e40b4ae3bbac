import Alknet.Secret.RoundTrip

/-!
# What can poison the lock

A call that panics under the write guard leaves every later call to panic on the lock.
`decrypt` does so on a nonce of the wrong length, and on nothing else.
-/

open Alknet.Rust Alknet.Lib

namespace Alknet.Secret

open SecretServiceInner

/-! ## When a derivation returns -/

theorem derivation_returns_iff (env : Env) (key_type : KeyType) (seed : List UInt8)
    (path : String) :
    Returns (derivation env key_type seed path) ↔
      Returns (parse_derivation_path env.build path) := by
  have hslip : Returns (slip10 env seed path) ↔ Returns (parse_derivation_path env.build path) := by
    unfold slip10 derive_path_from_seed
    rw [bind_returns (fun _ => pure_returns _), bind_returns]
    intro indices
    rw [bind_returns (fun _ => pure_returns _)]
    exact ofResult_returns _
  have hbip : Returns (bip32 env seed path) ↔ Returns (parse_derivation_path env.build path) := by
    unfold bip32 derive_secp256k1_path
    rw [bind_returns (fun _ => pure_returns _), bind_returns]
    intro indices
    rw [bind_returns (fun _ => ofResult_returns _)]
    exact ofResult_returns _
  cases key_type with
  | Ed25519 => exact hslip
  | Aes256Gcm => exact hslip
  | Secp256k1 => exact hbip

theorem parse_encryption_path (build : Build) :
    Returns (parse_derivation_path build PATHS.ENCRYPTION) := by
  rcases build with ⟨_ | _, feature⟩
  all_goals exact returns_ok _

theorem cached_or_derive_returns_iff {env : Env} {inner : SecretServiceInner} {seed : Seed}
    (h : Consistent env inner) (hseed : inner.seed = some seed) (key_type : KeyType) (clock : Clock)
    (path : String) :
    Returns (cached_or_derive (derivation env key_type) key_type clock path inner).1 ↔
      Returns (parse_derivation_path env.build path) := by
  rw [cached_or_derive_fst]
  cases hl : inner.cache.live clock path with
  | some entry =>
    -- A cached key was derived at this path once, so the path parses.
    obtain ⟨⟨seed', -, pair, hpair, -⟩, -⟩ := h.cacheable path entry.key (KeyCache.live_holds hl)
    have hret := derivation_returns_iff env entry.key.key_type seed'.bytes path
    rw [hpair] at hret
    simp only [returns_ok, true_iff] at hret
    simp [hret]
  | none =>
    simp only [derive_fresh, hseed]
    rw [← derivation_returns_iff env key_type seed.bytes path]
    cases derivation env key_type seed.bytes path with
    | error f => exact returns_into _ f
    | ok pair => simp

/-! ## When `decrypt` returns -/

/-- `encrypt` and `decrypt` get a key: one is live at the encryption path, or one derives. -/
def KeyAvailable (env : Env) (clock : Clock) (inner : SecretServiceInner) : Prop :=
  (inner.cache.live clock PATHS.ENCRYPTION).isSome ∨
    ∃ seed pair, inner.seed = some seed ∧ slip10 env seed.bytes PATHS.ENCRYPTION = .ok pair

/-- The field is not Base64, or it is the Base64 of 12 bytes. -/
def NonceFits (C : Cipher) (encrypted : EncryptedData) : Prop :=
  ∀ iv_bytes, C.base64_decode encrypted.iv = .ok iv_bytes → iv_bytes.length = 12

theorem keyAvailable_iff {env : Env} {inner : SecretServiceInner} {seed : Seed}
    (h : Consistent env inner) (hseed : inner.seed = some seed) (clock : Clock) :
    KeyAvailable env clock inner ↔
      ∃ pair, derivation env (encryptionType clock inner) seed.bytes PATHS.ENCRYPTION =
        .ok pair := by
  unfold KeyAvailable encryptionType
  cases hl : inner.cache.live clock PATHS.ENCRYPTION with
  | some entry =>
    obtain ⟨⟨seed', hseed', pair, hpair, -⟩, -⟩ :=
      h.cacheable _ entry.key (KeyCache.live_holds hl)
    obtain rfl : seed = seed' := by simpa [hseed] using hseed'
    simp only [Option.isSome_some, true_or, true_iff]
    exact ⟨pair, hpair⟩
  | none => simp [hseed, derivation]

theorem decrypt_returns_iff (C : Cipher) (encrypted : EncryptedData) (key : EncryptionKey) :
    Returns (decrypt C encrypted key) ↔ NonceFits C encrypted := by
  unfold decrypt NonceFits
  cases C.base64_decode encrypted.iv with
  | error e => simp
  | ok iv_bytes =>
    simp only [Except.ok.injEq, forall_eq']
    by_cases hlen : iv_bytes.length = 12
    · simp only [hlen, dite_true, iff_true]
      cases C.base64_decode encrypted.data with
      | error e => simp
      | ok data =>
        simp only
        cases C.decrypt key.key_bytes ⟨iv_bytes, hlen⟩ data with
        | error e => simp
        | ok plain => simp only; cases from_utf8 plain <;> simp
    · simp [hlen]

theorem with_encryption_key_returns_iff {α : Type} {env : Env} {inner : SecretServiceInner}
    {seed : Seed} (h : Consistent env inner) (hseed : inner.seed = some seed) (clock : Clock)
    (key_version : UInt32) (use : EncryptionKey → Outcome EncryptionError α) (P : Prop)
    (huse : ∀ key, Returns (use key) ↔ P) :
    Returns (with_encryption_key env clock key_version use inner).1 ↔
      (KeyAvailable env clock inner → P) := by
  rw [with_encryption_key_fst h hseed, keyAvailable_iff h hseed]
  have hret := derivation_returns_iff env (encryptionType clock inner) seed.bytes PATHS.ENCRYPTION
  cases hd : derivation env (encryptionType clock inner) seed.bytes PATHS.ENCRYPTION with
  | error f =>
    simp only [hd, parse_encryption_path, iff_true] at hret
    simpa using (returns_into _ f).mpr hret
  | ok pair =>
    simp only [Except.ok.injEq, exists_eq', forall_const]
    rw [← huse ⟨pair.private_key, key_version⟩]
    cases use ⟨pair.private_key, key_version⟩ with
    | error f => exact returns_into _ f
    | ok a => simp

theorem encrypt_returns (C : Cipher) (iv_bytes : List.Vector UInt8 12)
    (salt_bytes : List.Vector UInt8 32) (plaintext : String) (key : EncryptionKey) :
    Returns (encrypt C iv_bytes salt_bytes plaintext key) := by
  unfold encrypt
  split <;> simp

/-! ## Calls after a call -/

theorem write_returns_iff {α : Type} {handle : SecretServiceHandle}
    {body : SecretServiceInner → Outcome SecretServiceError α × SecretServiceInner}
    (hp : handle.poisoned = false) :
    Returns (handle.write body).1 ↔ Returns (body handle.inner).1 := by
  simp [SecretServiceHandle.write, hp]

theorem unless_locked_returns_iff {α : Type} {inner : SecretServiceInner}
    {body : SecretServiceInner → Outcome SecretServiceError α × SecretServiceInner} :
    Returns (unless_locked body inner).1 ↔
      (inner.unlocked = true → Returns (body inner).1) := by
  unfold unless_locked
  split
  · simp [*]
  · simp [*]

theorem derive_call_returns_iff {env : Env} {handle : SecretServiceHandle} (h : Sound env handle)
    (key_type : KeyType) (clock : Clock) (path : String) :
    Returns ((handle.write (unless_locked
        (cached_or_derive (derivation env key_type) key_type clock path))).1.map Reply.key) ↔
      (handle.inner.unlocked = true → Returns (parse_derivation_path env.build path)) := by
  rw [returns_map, write_returns_iff h.1, unless_locked_returns_iff]
  apply imp_congr_right
  intro hun
  obtain ⟨seed, hseed⟩ := h.2.exists_seed hun
  exact cached_or_derive_returns_iff h.2 hseed key_type clock path

theorem password_call_returns_iff {env : Env} {handle : SecretServiceHandle}
    (h : Sound env handle) (clock : Clock) (path : String) (length : Nat) :
    Returns (handle.call env clock (.derive_password path length)).1 ↔
      (handle.inner.unlocked = true → Returns (parse_derivation_path env.build path)) := by
  simp only [SecretServiceHandle.call, Prod.map_fst, returns_map, SecretServiceHandle.read, h.1,
    Bool.false_eq_true, if_false, SecretServiceInner.derive_password]
  split
  · rename_i hun
    obtain ⟨seed, hseed⟩ := h.2.exists_seed hun
    simp only [hseed, hun, forall_const]
    rw [← derivation_returns_iff env .Ed25519 seed.bytes path]
    simp only [derivation]
    cases slip10 env seed.bytes path with
    | error f => exact returns_into _ f
    | ok pair => simp
  · simp [*]

theorem encrypt_call_returns {env : Env} {handle : SecretServiceHandle} (h : Sound env handle)
    (clock : Clock) (plaintext : String) (key_version : UInt32) (iv_bytes : List.Vector UInt8 12)
    (salt_bytes : List.Vector UInt8 32) :
    Returns (handle.call env clock (.encrypt plaintext key_version iv_bytes salt_bytes)).1 := by
  simp only [SecretServiceHandle.call, Prod.map_fst, returns_map, write_returns_iff h.1]
  apply unless_locked_returns_iff.mpr
  intro hun
  obtain ⟨seed, hseed⟩ := h.2.exists_seed hun
  rw [with_encryption_key_returns_iff h.2 hseed clock key_version _ True
    (fun key => iff_true_intro (encrypt_returns env.cipher iv_bytes salt_bytes plaintext key))]
  exact fun _ => trivial

theorem decrypt_call_returns_iff {env : Env} {handle : SecretServiceHandle} (h : Sound env handle)
    (clock : Clock) (encrypted : EncryptedData) :
    Returns (handle.call env clock (.decrypt encrypted)).1 ↔
      (handle.inner.unlocked = true → KeyAvailable env clock handle.inner →
        NonceFits env.cipher encrypted) := by
  simp only [SecretServiceHandle.call, Prod.map_fst, returns_map, write_returns_iff h.1]
  refine unless_locked_returns_iff.trans (imp_congr_right fun hun => ?_)
  obtain ⟨seed, hseed⟩ := h.2.exists_seed hun
  exact with_encryption_key_returns_iff h.2 hseed clock encrypted.key_version _ _
    (fun key => decrypt_returns_iff env.cipher encrypted key)

theorem unlock_fst_congr (env : Env) (phrase : String) (passphrase : Option String)
    {before after : SecretServiceInner} (h : after.unlocked = before.unlocked) :
    (after.unlock env phrase passphrase).1 = (before.unlock env phrase passphrase).1 := by
  unfold SecretServiceInner.unlock
  rw [h]
  split
  · rfl
  · cases Mnemonic.from_phrase env.bip39 phrase with
    | error e => rfl
    | ok mnemonic => simp only; cases mnemonic.to_seed env.bip39 passphrase <;> rfl

theorem unlock_new_fst_congr (env : Env) (word_count : Nat) (entropy : List UInt8)
    {before after : SecretServiceInner} (h : after.unlocked = before.unlocked) :
    (after.unlock_new env word_count entropy).1 = (before.unlock_new env word_count entropy).1 := by
  unfold SecretServiceInner.unlock_new
  rw [h]
  split
  · rfl
  · cases Mnemonic.generate env.bip39 word_count entropy with
    | error e => rfl
    | ok mnemonic => simp only; cases mnemonic.to_seed env.bip39 none <;> rfl

theorem returns_of_sameSeed {env : Env} {handle after : SecretServiceHandle} (h : Sound env handle)
    (h' : Sound env after) (hs : SameSeed handle.inner after.inner)
    (hk : ∀ clock, KeyAvailable env clock after.inner → KeyAvailable env clock handle.inner)
    (clock : Clock) (call : Call) (hret : Returns (handle.call env clock call).1) :
    Returns (after.call env clock call).1 := by
  cases call with
  | unlock phrase passphrase =>
    simp only [SecretServiceHandle.call, Prod.map_fst, returns_map, write_returns_iff h.1,
      write_returns_iff h'.1, unlock_fst_congr env phrase passphrase hs.1] at hret ⊢
    exact hret
  | unlock_new word_count entropy =>
    simp only [SecretServiceHandle.call, Prod.map_fst, returns_map, write_returns_iff h.1,
      write_returns_iff h'.1, unlock_new_fst_congr env word_count entropy hs.1] at hret ⊢
    exact hret
  | lock => simp [SecretServiceHandle.call, write_returns_iff h'.1]
  | is_unlocked => simp [SecretServiceHandle.call, SecretServiceHandle.read, h'.1]
  | derive_ed25519 path =>
    apply (derive_call_returns_iff h' .Ed25519 clock path).mpr
    rw [hs.1]
    exact (derive_call_returns_iff h .Ed25519 clock path).mp hret
  | derive_encryption_key path =>
    apply (derive_call_returns_iff h' .Aes256Gcm clock path).mpr
    rw [hs.1]
    exact (derive_call_returns_iff h .Aes256Gcm clock path).mp hret
  | derive_ethereum_key path =>
    simp only [SecretServiceHandle.call] at hret ⊢
    split
    · apply (derive_call_returns_iff h' .Secp256k1 clock path).mpr
      rw [hs.1]
      rw [if_pos ‹_›] at hret
      exact (derive_call_returns_iff h .Secp256k1 clock path).mp hret
    · simp
  | derive_password path length =>
    rw [password_call_returns_iff h']
    rw [password_call_returns_iff h] at hret
    rw [hs.1]
    exact hret
  | encrypt plaintext key_version iv_bytes salt_bytes =>
    exact encrypt_call_returns h' clock plaintext key_version iv_bytes salt_bytes
  | decrypt encrypted =>
    rw [decrypt_call_returns_iff h']
    rw [decrypt_call_returns_iff h] at hret
    rw [hs.1]
    exact fun hun hav => hret hun (hk clock hav)

theorem keyAvailable_of_after {env : Env} {inner : SecretServiceInner} {clock clock' : Clock}
    (h : KeyAvailable env clock'
      (cached_or_derive (slip10 env) .Aes256Gcm clock PATHS.ENCRYPTION inner).2) :
    KeyAvailable env clock' inner := by
  -- `decrypt` caches a key only if that key derives
  have hs := (cached_or_derive_cacheStep env .Aes256Gcm (by simp) clock PATHS.ENCRYPTION inner).1
  rcases h with hlive | ⟨seed, pair, hseed, hpair⟩
  · unfold cached_or_derive at hlive
    have hget :=
      @KeyCache.get_live_isSome clock clock' PATHS.ENCRYPTION PATHS.ENCRYPTION inner.cache
    rcases hc : inner.cache.get clock PATHS.ENCRYPTION with ⟨_ | cached, cache⟩
    all_goals simp only [hc] at hlive hget
    · cases hseed : inner.seed with
      | none => simp only [hseed] at hlive; exact Or.inl (hget hlive)
      | some seed =>
        simp only [hseed] at hlive
        cases hd : slip10 env seed.bytes PATHS.ENCRYPTION with
        | error f => simp only [hd] at hlive; exact Or.inl (hget hlive)
        | ok pair => exact Or.inr ⟨seed, pair, hseed, hd⟩
    · exact Or.inl (hget hlive)
  · exact Or.inr ⟨seed, pair, by rw [← hs.2.1]; exact hseed, hpair⟩

theorem keyAvailable_of_decrypt {env : Env} {handle : SecretServiceHandle} {clock clock' : Clock}
    {encrypted : EncryptedData}
    (h : KeyAvailable env clock' (handle.call env clock (.decrypt encrypted)).2.inner) :
    KeyAvailable env clock' handle.inner := by
  simp only [SecretServiceHandle.call, Prod.map_snd, id, SecretServiceHandle.write,
    SecretServiceInner.decrypt, unless_locked] at h
  split at h
  · exact h
  · split at h
    · simp only [with_encryption_key_snd] at h
      exact keyAvailable_of_after h
    · exact h

/-- **No wedge.** `decrypt` returns if and only if there is no key or the `iv` is not Base64 of a
wrong length. -/
theorem decrypt_no_wedge_iff (env : Env) (config : CacheConfig) (history : List (Clock × Call))
    (handle : SecretServiceHandle) (h : Reached env config history handle) (clock : Clock)
    (encrypted : EncryptedData) :
    (Returns (handle.call env clock (.decrypt encrypted)).1 ∧
      ∀ clock' call, Returns (handle.call env clock' call).1 →
        Returns ((handle.call env clock (.decrypt encrypted)).2.call env clock' call).1) ↔
      (handle.inner.unlocked = true → KeyAvailable env clock handle.inner →
        NonceFits env.cipher encrypted) := by
  have hs := reached_sound h
  rw [decrypt_call_returns_iff hs]
  constructor
  · exact fun hboth => hboth.1
  · intro hcond
    refine ⟨hcond, fun clock' call hret => ?_⟩
    have hs' : Sound env (handle.call env clock (.decrypt encrypted)).2 := by
      apply step_sound handle (clock, .decrypt encrypted) _ hs
      exact step_eq_some.mpr ⟨(decrypt_call_returns_iff hs clock encrypted).mpr hcond, rfl⟩
    exact returns_of_sameSeed hs hs' (call_cacheStep env handle clock _ rfl).1
      (fun _ => keyAvailable_of_decrypt) clock' call hret

theorem decrypt_no_wedge_sample :
    ∃ handle, Reached (sampleEnv true) sampleConfig sampleHistory handle ∧
      Returns (handle.call (sampleEnv true) ⟨2, 2⟩
        (.decrypt ⟨1, "", "AAAAAAAAAAAAAAAA", ""⟩)).1 := by
  refine ⟨_, rfl, ((decrypt_no_wedge_iff (sampleEnv true) sampleConfig sampleHistory _ rfl ⟨2, 2⟩
    ⟨1, "", "AAAAAAAAAAAAAAAA", ""⟩).mpr ?_).1⟩
  intro _ _ iv_bytes hiv
  obtain rfl : _ = iv_bytes := Except.ok.inj hiv
  rfl

/-- An empty `iv` is the Base64 of no bytes. -/
theorem decrypt_wedges :
    ∃ handle, Reached (sampleEnv true) sampleConfig sampleHistory handle ∧
      (handle.call (sampleEnv true) ⟨2, 2⟩ (.decrypt ⟨1, "", "", ""⟩)).1 =
        .error (.panic .sliceLength) ∧
      Returns (handle.call (sampleEnv true) ⟨3, 3⟩ .lock).1 ∧
      ((handle.call (sampleEnv true) ⟨2, 2⟩ (.decrypt ⟨1, "", "", ""⟩)).2.call (sampleEnv true)
        ⟨3, 3⟩ .lock).1 = .error (.panic .poisonedLock) :=
  ⟨_, rfl, rfl, returns_ok _, rfl⟩

end Alknet.Secret
