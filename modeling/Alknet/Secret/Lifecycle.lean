import Alknet.Lib.Base64
import Alknet.Lib.Run
import Alknet.Secret.Cache

/-!
# The unlock and lock lifecycle

What each call can do to the state is said once, in `call_changes`. The invariant of
the service is then a short case analysis, and holds along every history of calls.
-/

open Alknet.Rust Alknet.Lib

namespace Alknet.Secret

open SecretServiceInner

/-! ## The invariant -/

/-- The derivation that belongs to a key type. -/
def derivation (env : Env) : KeyType → List UInt8 → String → Outcome DerivationError KeyPair
  | .Ed25519 => slip10 env
  | .Aes256Gcm => slip10 env
  | .Secp256k1 => bip32 env

/-- The bytes of `key` are those that its own type gives at `path`. -/
def Genuine (env : Env) (seed : Seed) (path : String) (key : DerivedKey) : Prop :=
  ∃ pair, derivation env key.key_type seed.bytes path = .ok pair ∧
    key.private_key = pair.private_key.toList ∧ key.public_key = pair.public_key

/-- A key that the service may cache: derived from the loaded seed, on a curve that is built in. -/
def Cacheable (env : Env) (inner : SecretServiceInner) (path : String) (key : DerivedKey) : Prop :=
  (∃ seed, inner.seed = some seed ∧ Genuine env seed path key) ∧
    (key.key_type = .Secp256k1 → env.build.secp256k1 = true)

structure Consistent (env : Env) (inner : SecretServiceInner) : Prop where
  seed_iff : inner.seed.isSome = inner.unlocked
  mnemonic_iff : inner.mnemonic.isSome = inner.unlocked
  cacheable : ∀ path key, inner.cache.Holds path key → Cacheable env inner path key

theorem Consistent.locked_empty {env : Env} {inner : SecretServiceInner}
    (h : Consistent env inner) (hlocked : inner.unlocked = false) : inner.cache.entries = ∅ := by
  apply KeyCache.entries_eq_empty
  intro path key hholds
  obtain ⟨⟨seed, hseed, -⟩, -⟩ := h.cacheable path key hholds
  have := h.seed_iff
  simp [hseed, hlocked] at this

theorem Consistent.exists_seed {env : Env} {inner : SecretServiceInner}
    (h : Consistent env inner) (hun : inner.unlocked = true) : ∃ seed, inner.seed = some seed := by
  rw [← Option.isSome_iff_exists, h.seed_iff, hun]

theorem consistent_fresh (env : Env) (config : CacheConfig) :
    Consistent env (SecretServiceHandle.with_cache_config config).inner where
  seed_iff := rfl
  mnemonic_iff := rfl
  cacheable := by
    rintro path key ⟨entry, he, -⟩
    simp [SecretServiceHandle.with_cache_config, KeyCache.new] at he

/-! ## What a body can do -/

def SameSeed (before after : SecretServiceInner) : Prop :=
  after.unlocked = before.unlocked ∧ after.seed = before.seed ∧ after.mnemonic = before.mnemonic

theorem SameSeed.refl (inner : SecretServiceInner) : SameSeed inner inner := ⟨rfl, rfl, rfl⟩

/-- Only the cache changed, and what is new in it may be there. -/
def CacheStep (env : Env) (before after : SecretServiceInner) : Prop :=
  SameSeed before after ∧ ∀ path key, after.cache.Holds path key →
    before.cache.Holds path key ∨ Cacheable env before path key

theorem CacheStep.refl (env : Env) (inner : SecretServiceInner) : CacheStep env inner inner :=
  ⟨SameSeed.refl inner, fun _ _ h => Or.inl h⟩

theorem Cacheable.of_sameSeed {env : Env} {before after : SecretServiceInner} {path : String}
    {key : DerivedKey} (hs : SameSeed before after) (h : Cacheable env before path key) :
    Cacheable env after path key := by
  obtain ⟨⟨seed, hseed, hg⟩, hf⟩ := h
  exact ⟨⟨seed, hs.2.1.trans hseed, hg⟩, hf⟩

theorem Consistent.cacheStep {env : Env} {before after : SecretServiceInner}
    (h : Consistent env before) (hstep : CacheStep env before after) : Consistent env after := by
  obtain ⟨hs, hcache⟩ := hstep
  refine ⟨by rw [hs.1, hs.2.1, h.seed_iff], by rw [hs.1, hs.2.2, h.mnemonic_iff], ?_⟩
  intro path key hholds
  apply Cacheable.of_sameSeed hs
  rcases hcache path key hholds with hold | hnew
  · exact h.cacheable path key hold
  · exact hnew

/-- The key that a call would derive if the cache were empty. -/
def derive_fresh (derive : List UInt8 → String → Outcome DerivationError KeyPair)
    (key_type : KeyType) (path : String) (inner : SecretServiceInner) :
    Outcome SecretServiceError DerivedKey :=
  match inner.seed with
  | none => .error (.err .ServiceLocked)
  | some seed =>
    match derive seed.bytes path with
    | .error f => .error (f.into .of_derivation)
    | .ok key => .ok ⟨key_type, key.private_key.toList, key.public_key⟩

theorem cached_or_derive_fst (derive : List UInt8 → String → Outcome DerivationError KeyPair)
    (key_type : KeyType) (clock : Clock) (path : String) (inner : SecretServiceInner) :
    (cached_or_derive derive key_type clock path inner).1 =
      match inner.cache.live clock path with
      | some entry => .ok entry.key
      | none => derive_fresh derive key_type path inner := by
  -- the live entry wins, whatever its type
  have hget := KeyCache.get_fst clock path inner.cache
  unfold cached_or_derive derive_fresh
  rcases hc : inner.cache.get clock path with ⟨_ | cached, cache⟩
  · have hl : inner.cache.live clock path = none := by simpa [hc] using hget.symm
    simp only [hl]
    cases inner.seed with
    | none => rfl
    | some seed => simp only; cases derive seed.bytes path <;> rfl
  · simp only [hc] at hget
    obtain ⟨entry, hl, rfl⟩ := Option.map_eq_some_iff.mp hget.symm
    simp [hl, CachedKey.key, CachedKey.touch]

theorem cached_or_derive_cacheStep (env : Env) (key_type : KeyType)
    (hfeature : key_type = .Secp256k1 → env.build.secp256k1 = true)
    (clock : Clock) (path : String) (inner : SecretServiceInner) :
    CacheStep env inner
      (cached_or_derive (derivation env key_type) key_type clock path inner).2 := by
  have hget : ∀ q key, (inner.cache.get clock path).2.Holds q key → inner.cache.Holds q key :=
    fun _ _ h => KeyCache.get_holds h
  unfold cached_or_derive
  rcases hc : inner.cache.get clock path with ⟨_ | cached, cache⟩
  all_goals simp only [hc] at hget
  · cases hs : inner.seed with
    | none => exact ⟨⟨rfl, by simp [hs], rfl⟩, fun q key h => Or.inl (hget q key h)⟩
    | some seed =>
      simp only
      cases hd : derivation env key_type seed.bytes path with
      | error f => exact ⟨⟨rfl, by simp [hs], rfl⟩, fun q key h => Or.inl (hget q key h)⟩
      | ok pair =>
        refine ⟨⟨rfl, by simp [hs], rfl⟩, fun q key h => ?_⟩
        rcases KeyCache.insert_holds h with ⟨rfl, rfl⟩ | hold
        · -- The new entry: derived just now from the loaded seed.
          exact Or.inr ⟨⟨seed, hs, pair, hd, rfl, rfl⟩, hfeature⟩
        · exact Or.inl (hget q key hold)
  · exact ⟨SameSeed.refl _, fun q key h => Or.inl (hget q key h)⟩

theorem with_encryption_key_snd {α : Type} (env : Env) (clock : Clock) (key_version : UInt32)
    (use : EncryptionKey → Outcome EncryptionError α) (inner : SecretServiceInner) :
    (with_encryption_key env clock key_version use inner).2 =
      (cached_or_derive (slip10 env) .Aes256Gcm clock PATHS.ENCRYPTION inner).2 := by
  unfold with_encryption_key
  rcases cached_or_derive (slip10 env) .Aes256Gcm clock PATHS.ENCRYPTION inner with ⟨_ | key, after⟩
  · rfl
  · simp only
    cases EncryptionKey.from_derived_bytes key.private_key key_version with
    | error f => rfl
    | ok enc_key => simp only; cases use enc_key <;> rfl

/-! ## What a call can do -/

@[simp] theorem read_snd {α : Type} (handle : SecretServiceHandle)
    (body : SecretServiceInner → Outcome SecretServiceError α) :
    (handle.read body).2 = handle := by
  unfold SecretServiceHandle.read
  split <;> rfl

def Call.turnsLock : Call → Bool
  | .unlock _ _ => true
  | .unlock_new _ _ => true
  | .lock => true
  | _ => false

/-- The three things that a call can do to the state. -/
inductive Change (env : Env) (before : SecretServiceInner) (call : Call)
    (result : Outcome SecretServiceError Reply) : SecretServiceInner → Prop
  | locked (hcall : call = .lock) (hok : result = .ok .unit) :
    Change env before call result before.lock
  | loaded (mnemonic : Mnemonic) (seed : Seed) (hcall : call.turnsLock = true)
      (hlocked : before.unlocked = false) (hok : ∃ reply, result = .ok reply) :
    Change env before call result (before.load mnemonic seed)
  | cached (after : SecretServiceInner) (h : CacheStep env before after) :
    Change env before call result after

theorem unlock_change (env : Env) (handle : SecretServiceHandle) (clock : Clock) (phrase : String)
    (passphrase : Option String) :
    Change env handle.inner (.unlock phrase passphrase)
      (handle.call env clock (.unlock phrase passphrase)).1
      (handle.call env clock (.unlock phrase passphrase)).2.inner := by
  simp only [SecretServiceHandle.call, SecretServiceHandle.write, SecretServiceInner.unlock,
    Prod.map_fst, Prod.map_snd, id]
  split
  · exact .cached _ (CacheStep.refl env _)
  · cases hun : handle.inner.unlocked with
    | true => exact .cached _ (CacheStep.refl env _)
    | false =>
      simp only [Bool.false_eq_true, if_false]
      cases Mnemonic.from_phrase env.bip39 phrase with
      | error e => exact .cached _ (CacheStep.refl env _)
      | ok mnemonic =>
        simp only
        cases mnemonic.to_seed env.bip39 passphrase with
        | error f => exact .cached _ (CacheStep.refl env _)
        | ok seed => exact .loaded mnemonic seed rfl hun ⟨_, rfl⟩

theorem unlock_new_change (env : Env) (handle : SecretServiceHandle) (clock : Clock)
    (word_count : Nat) (entropy : List UInt8) :
    Change env handle.inner (.unlock_new word_count entropy)
      (handle.call env clock (.unlock_new word_count entropy)).1
      (handle.call env clock (.unlock_new word_count entropy)).2.inner := by
  simp only [SecretServiceHandle.call, SecretServiceHandle.write, SecretServiceInner.unlock_new,
    Prod.map_fst, Prod.map_snd, id]
  split
  · exact .cached _ (CacheStep.refl env _)
  · cases hun : handle.inner.unlocked with
    | true => exact .cached _ (CacheStep.refl env _)
    | false =>
      simp only [Bool.false_eq_true, if_false]
      cases Mnemonic.generate env.bip39 word_count entropy with
      | error e => exact .cached _ (CacheStep.refl env _)
      | ok mnemonic =>
        simp only
        cases mnemonic.to_seed env.bip39 none with
        | error f => exact .cached _ (CacheStep.refl env _)
        | ok seed => exact .loaded mnemonic seed rfl hun ⟨_, rfl⟩

theorem lock_change (env : Env) (handle : SecretServiceHandle) (clock : Clock) :
    Change env handle.inner .lock (handle.call env clock .lock).1
      (handle.call env clock .lock).2.inner := by
  simp only [SecretServiceHandle.call, SecretServiceHandle.write]
  split
  · exact .cached _ (CacheStep.refl env _)
  · exact .locked rfl rfl

section

variable {R : SecretServiceInner → SecretServiceInner → Prop}

theorem write_relates {α : Type} {handle : SecretServiceHandle}
    {body : SecretServiceInner → Outcome SecretServiceError α × SecretServiceInner}
    (hrefl : ∀ inner, R inner inner) (h : R handle.inner (body handle.inner).2) :
    R handle.inner (handle.write (unless_locked body)).2.inner := by
  unfold SecretServiceHandle.write
  split
  · exact hrefl handle.inner
  · by_cases hun : handle.inner.unlocked = true
    · rw [unless_locked, if_pos hun]
      exact h
    · rw [unless_locked, if_neg hun]
      exact hrefl handle.inner

theorem call_relates {env : Env} (hrefl : ∀ inner, R inner inner)
    (hkey : ∀ key_type, (key_type = .Secp256k1 → env.build.secp256k1 = true) →
      ∀ clock path inner,
        R inner (cached_or_derive (derivation env key_type) key_type clock path inner).2)
    (handle : SecretServiceHandle) (clock : Clock) (call : Call) (h : call.turnsLock = false) :
    R handle.inner (handle.call env clock call).2.inner := by
  cases call with
  | unlock phrase passphrase => simp [Call.turnsLock] at h
  | unlock_new word_count entropy => simp [Call.turnsLock] at h
  | lock => simp [Call.turnsLock] at h
  | is_unlocked =>
    simp only [SecretServiceHandle.call, read_snd]
    exact hrefl _
  | derive_ed25519 path =>
    exact write_relates hrefl (hkey .Ed25519 (by simp) clock path _)
  | derive_encryption_key path =>
    exact write_relates hrefl (hkey .Aes256Gcm (by simp) clock path _)
  | derive_ethereum_key path =>
    simp only [SecretServiceHandle.call]
    split
    · next hfeature =>
      exact write_relates hrefl (hkey .Secp256k1 (fun _ => hfeature) clock path _)
    · exact hrefl _
  | derive_password path length =>
    simp only [SecretServiceHandle.call, Prod.map_snd, read_snd, id]
    exact hrefl _
  | encrypt plaintext key_version iv_bytes salt_bytes =>
    apply write_relates hrefl
    rw [with_encryption_key_snd]
    exact hkey .Aes256Gcm (by simp) clock PATHS.ENCRYPTION _
  | decrypt encrypted =>
    apply write_relates hrefl
    rw [with_encryption_key_snd]
    exact hkey .Aes256Gcm (by simp) clock PATHS.ENCRYPTION _

end

theorem call_cacheStep (env : Env) (handle : SecretServiceHandle) (clock : Clock) (call : Call)
    (h : call.turnsLock = false) :
    CacheStep env handle.inner (handle.call env clock call).2.inner :=
  call_relates (CacheStep.refl env) (cached_or_derive_cacheStep env) handle clock call h

theorem call_changes (env : Env) (handle : SecretServiceHandle) (clock : Clock) (call : Call) :
    Change env handle.inner call (handle.call env clock call).1
      (handle.call env clock call).2.inner := by
  cases hc : call.turnsLock with
  | false => exact .cached _ (call_cacheStep env handle clock call hc)
  | true =>
    cases call with
    | unlock phrase passphrase => exact unlock_change env handle clock phrase passphrase
    | unlock_new word_count entropy => exact unlock_new_change env handle clock word_count entropy
    | lock => exact lock_change env handle clock
    | _ => simp [Call.turnsLock] at hc

/-! ## Every history -/

theorem Consistent.change {env : Env} {before after : SecretServiceInner} {call : Call}
    {result : Outcome SecretServiceError Reply} (h : Consistent env before)
    (hchange : Change env before call result after) : Consistent env after := by
  cases hchange with
  | locked hcall hok =>
    refine ⟨rfl, rfl, ?_⟩
    rintro path key ⟨entry, he, -⟩
    simp [SecretServiceInner.lock, KeyCache.clear] at he
  | loaded mnemonic seed hcall hlocked hok =>
    -- A locked service has nothing cached, so no old key is there under the new seed.
    refine ⟨rfl, rfl, ?_⟩
    rintro path key ⟨entry, he, -⟩
    simp [SecretServiceInner.load, h.locked_empty hlocked] at he
  | cached _ hstep => exact h.cacheStep hstep

theorem Change.sameSeed_of_err {env : Env} {before after : SecretServiceInner} {call : Call}
    {result : Outcome SecretServiceError Reply} {e : SecretServiceError}
    (h : Change env before call result after) (he : result = .error (.err e)) :
    SameSeed before after := by
  cases h with
  | locked hcall hok => simp [hok] at he
  | loaded mnemonic seed hcall hlocked hok =>
    obtain ⟨reply, hok⟩ := hok
    simp [hok] at he
  | cached _ hstep => exact hstep.1

theorem write_not_poisoned {α : Type} {handle : SecretServiceHandle}
    {body : SecretServiceInner → Outcome SecretServiceError α × SecretServiceInner}
    (h : handle.poisoned = false) (hret : Returns (handle.write body).1) :
    (handle.write body).2.poisoned = false := by
  simp only [SecretServiceHandle.write, h, Bool.false_eq_true, if_false] at hret ⊢
  simpa using hret

theorem call_not_poisoned (env : Env) {handle : SecretServiceHandle} {clock : Clock} {call : Call}
    (h : handle.poisoned = false) (hret : Returns (handle.call env clock call).1) :
    (handle.call env clock call).2.poisoned = false := by
  cases call with
  | is_unlocked => simpa [SecretServiceHandle.call] using h
  | derive_password path length => simpa [SecretServiceHandle.call] using h
  | derive_ethereum_key path =>
    simp only [SecretServiceHandle.call] at hret ⊢
    split at hret
    · simp only [*, if_true, Prod.map_snd, Prod.map_fst, returns_map, id] at hret ⊢
      exact write_not_poisoned h hret
    · simp [*]
  | lock => exact write_not_poisoned h hret
  | _ =>
    simp only [SecretServiceHandle.call, Prod.map_snd, Prod.map_fst, returns_map, id] at hret ⊢
    exact write_not_poisoned h hret

theorem step_eq_some {env : Env} {handle after : SecretServiceHandle} {at_call : Clock × Call} :
    handle.step env at_call = some after ↔
      Returns (handle.call env at_call.1 at_call.2).1 ∧
        (handle.call env at_call.1 at_call.2).2 = after := by
  simp only [SecretServiceHandle.step]
  split
  · rename_i h
    simpa using fun _ => (returned_iff _).mp h
  · rename_i h
    simpa using fun hret => absurd ((returned_iff _).mpr hret) h

def Sound (env : Env) (handle : SecretServiceHandle) : Prop :=
  handle.poisoned = false ∧ Consistent env handle.inner

theorem sound_fresh (env : Env) (config : CacheConfig) :
    Sound env (SecretServiceHandle.with_cache_config config) :=
  ⟨rfl, consistent_fresh env config⟩

theorem step_sound {env : Env} (handle : SecretServiceHandle) (at_call : Clock × Call)
    (after : SecretServiceHandle) (h : Sound env handle)
    (hstep : handle.step env at_call = some after) : Sound env after := by
  obtain ⟨hret, rfl⟩ := step_eq_some.mp hstep
  exact ⟨call_not_poisoned env h.1 hret, h.2.change (call_changes env handle at_call.1 at_call.2)⟩

/-- The history, one call that returned after the other, takes a new handle to `handle`. -/
def Reached (env : Env) (config : CacheConfig) (history : List (Clock × Call))
    (handle : SecretServiceHandle) : Prop :=
  run (SecretServiceHandle.step env) (.with_cache_config config) history = some handle

theorem reached_sound {env : Env} {config : CacheConfig} {history : List (Clock × Call)}
    {handle : SecretServiceHandle} (h : Reached env config history handle) : Sound env handle :=
  run_keeps step_sound (sound_fresh env config) h

/-- **The lifecycle.** A locked service caches nothing, and a cached key is that of its type and
path under the seed. -/
theorem lifecycle (env : Env) (config : CacheConfig) (history : List (Clock × Call))
    (handle : SecretServiceHandle) (h : Reached env config history handle) :
    (handle.inner.seed.isSome = handle.inner.unlocked ∧
      handle.inner.mnemonic.isSome = handle.inner.unlocked) ∧
    (handle.inner.unlocked = false → handle.inner.cache.entries = ∅) ∧
    (∀ path entry, handle.inner.cache.entries.lookup path = some entry →
      ∃ seed, handle.inner.seed = some seed ∧ Genuine env seed path entry.key) ∧
    (∀ clock call, (∃ e, (handle.call env clock call).1 = .error (.err e)) →
      SameSeed handle.inner (handle.call env clock call).2.inner) ∧
    (∀ clock call, call.turnsLock = false →
      SameSeed handle.inner (handle.call env clock call).2.inner) := by
  obtain ⟨-, hc⟩ := reached_sound h
  refine ⟨⟨hc.seed_iff, hc.mnemonic_iff⟩, hc.locked_empty, ?_, ?_, ?_⟩
  · intro path entry he
    exact (hc.cacheable path entry.key ⟨entry, he, rfl⟩).1
  · rintro clock call ⟨e, he⟩
    exact (call_changes env handle clock call).sameSeed_of_err he
  · intro clock call hcall
    exact (call_cacheStep env handle clock call hcall).1

/-! ## A history to look at -/

def samplePhrase : String :=
  "legal winner thank year wave sausage worth useful legal winner thank yellow"

/-- AES-GCM as its users see it: the text, then a 16 byte tag that only the same key makes. -/
def sampleCipher : Cipher where
  encrypt key _ text := .ok (text ++ key.toList.take 16)
  decrypt key _ data :=
    if 16 ≤ data.length ∧ data.drop (data.length - 16) = key.toList.take 16 then
      .ok (data.take (data.length - 16))
    else .error "aead::Error"
  base64_encode bytes := String.ofList (Base64.encode bytes)
  base64_decode text :=
    match Base64.decode text.toList with
    | some bytes => .ok bytes
    | none => .error "Invalid padding"
  utf8_error _ := "invalid utf-8 sequence of 1 bytes from index 0"

/-- One valid phrase, and keys that show their curve: 1 for ed25519, 3 for secp256k1. -/
def sampleEnv (secp256k1 : Bool) : Env where
  build := ⟨true, secp256k1⟩
  bip39 := {
    Parsed := String
    parse_normalized := fun phrase =>
      if phrase = samplePhrase then .ok phrase else .error "mnemonic has an invalid word count"
    generate := fun _ _ => .ok samplePhrase
    to_string := id
    to_seed_normalized := fun _ _ => List.Vector.replicate 64 7 }
  ed25519 := {
    XPrv := Unit
    master := fun _ => .ok ()
    derive := fun _ _ => ()
    extended_secret_key_bytes := fun _ => List.Vector.replicate 64 1
    public_bytes := fun _ => List.Vector.replicate 64 2
    chain_code := fun _ => List.Vector.replicate 32 0 }
  secp := {
    master := fun _ => .ok ⟨List.Vector.replicate 32 3, List.replicate 33 4, List.replicate 32 0⟩
    child := fun key _ => .ok key }
  cipher := sampleCipher

def sampleConfig : CacheConfig := ⟨3600, 64⟩

def sampleHistory : List (Clock × Call) :=
  [(⟨0, 0⟩, .unlock samplePhrase none), (⟨1, 1⟩, .derive_ed25519 PATHS.ENCRYPTION)]

theorem lifecycle_sample : ∃ handle, Reached (sampleEnv true) sampleConfig sampleHistory handle ∧
    handle.inner.unlocked = true ∧ handle.inner.seed.isSome = handle.inner.unlocked :=
  ⟨_, rfl, rfl, (lifecycle (sampleEnv true) sampleConfig sampleHistory _ rfl).1.1⟩

end Alknet.Secret
