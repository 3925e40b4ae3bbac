import Alknet.Secret.Lifecycle

/-!
# When the cache cannot be seen

The cache is keyed by path alone, and the three key calls share it. A call gives what
an empty cache would give exactly when no live entry of another type sits at its path.
-/

open Alknet.Rust Alknet.Lib

namespace Alknet.Secret

open SecretServiceInner

inductive Derive
  | ed25519
  | encryption_key
  | ethereum_key
  | password (length : Nat)

def Derive.at_path (path : String) : Derive → Call
  | .ed25519 => .derive_ed25519 path
  | .encryption_key => .derive_encryption_key path
  | .ethereum_key => .derive_ethereum_key path
  | .password length => .derive_password path length

/-- The type of key that a call asks the cache for, if it asks at all. -/
def Derive.wants (build : Build) : Derive → Option KeyType
  | .ed25519 => some .Ed25519
  | .encryption_key => some .Aes256Gcm
  | .ethereum_key => if build.secp256k1 then some .Secp256k1 else none
  | .password _ => none

def SecretServiceHandle.emptied (handle : SecretServiceHandle) : SecretServiceHandle :=
  { handle with inner := { handle.inner with cache := KeyCache.new handle.inner.cache.config } }

/-- A live entry at the path, if there is one, has the type that the call wants. -/
def CacheFits (build : Build) (handle : SecretServiceHandle) (clock : Clock) (path : String)
    (derive : Derive) : Prop :=
  ∀ key_type, derive.wants build = some key_type →
    ∀ entry, handle.inner.cache.live clock path = some entry → entry.key_type = key_type

theorem derive_fresh_of_genuine {env : Env} {inner : SecretServiceInner} {seed : Seed}
    {path : String} {key : DerivedKey} (hseed : inner.seed = some seed)
    (h : Genuine env seed path key) :
    derive_fresh (derivation env key.key_type) key.key_type path inner = .ok key := by
  obtain ⟨pair, hpair, hpriv, hpub⟩ := h
  simp only [derive_fresh, hseed, hpair, ← hpriv, ← hpub]

theorem derive_fresh_type {derive : List UInt8 → String → Outcome DerivationError KeyPair}
    {key_type : KeyType} {path : String} {inner : SecretServiceInner} {key : DerivedKey}
    (h : derive_fresh derive key_type path inner = .ok key) : key.key_type = key_type := by
  unfold derive_fresh at h
  split at h
  · simp at h
  · split at h
    · simp at h
    · simp only [Except.ok.injEq] at h
      rw [← h]

theorem cached_or_derive_transparent_iff {env : Env} {inner : SecretServiceInner}
    (h : Consistent env inner) (key_type : KeyType) (clock : Clock) (path : String)
    (config : CacheConfig) :
    (cached_or_derive (derivation env key_type) key_type clock path inner).1 =
        (cached_or_derive (derivation env key_type) key_type clock path
          { inner with cache := KeyCache.new config }).1 ↔
      ∀ entry, inner.cache.live clock path = some entry → entry.key_type = key_type := by
  rw [cached_or_derive_fst, cached_or_derive_fst, KeyCache.live_new]
  have hfresh : derive_fresh (derivation env key_type) key_type path
      { inner with cache := KeyCache.new config } =
      derive_fresh (derivation env key_type) key_type path inner := rfl
  simp only [hfresh]
  cases hl : inner.cache.live clock path with
  | none => simp
  | some entry =>
    simp only [Option.some.injEq, forall_eq']
    constructor
    · intro heq
      exact derive_fresh_type heq.symm
    · rintro rfl
      obtain ⟨⟨seed, hseed, hg⟩, -⟩ := h.cacheable path entry.key (KeyCache.live_holds hl)
      exact (derive_fresh_of_genuine hseed hg).symm

theorem map_key_inj {r s : Outcome SecretServiceError DerivedKey} :
    r.map Reply.key = s.map Reply.key ↔ r = s := by
  rcases r with f | a <;> rcases s with g | b <;> simp [Except.map]

theorem write_unless_locked (handle : SecretServiceHandle) {α : Type}
    (body : SecretServiceInner → Outcome SecretServiceError α × SecretServiceInner)
    (hp : handle.poisoned = false) (hun : handle.inner.unlocked = true) :
    (handle.write (unless_locked body)).1 = (body handle.inner).1 := by
  simp [SecretServiceHandle.write, unless_locked, hp, hun]

theorem write_cached_transparent_iff {env : Env} {handle : SecretServiceHandle}
    (h : Sound env handle) (hun : handle.inner.unlocked = true) (key_type : KeyType)
    (clock : Clock) (path : String) :
    (handle.write (unless_locked
        (cached_or_derive (derivation env key_type) key_type clock path))).1.map Reply.key =
      (handle.emptied.write (unless_locked
        (cached_or_derive (derivation env key_type) key_type clock path))).1.map Reply.key ↔
      ∀ entry, handle.inner.cache.live clock path = some entry → entry.key_type = key_type := by
  rw [map_key_inj, write_unless_locked handle _ h.1 hun,
    write_unless_locked handle.emptied _ h.1 hun]
  exact cached_or_derive_transparent_iff h.2 key_type clock path _

/-- **Cache transparency.** A derive call is as with an empty cache if and only if no live entry of
another type is at its path. -/
theorem derive_transparent_iff (env : Env) (config : CacheConfig) (history : List (Clock × Call))
    (handle : SecretServiceHandle) (h : Reached env config history handle)
    (hun : handle.inner.unlocked = true) (clock : Clock) (path : String) (derive : Derive) :
    (handle.call env clock (derive.at_path path)).1 =
        (handle.emptied.call env clock (derive.at_path path)).1 ↔
      CacheFits env.build handle clock path derive := by
  have hsound := reached_sound h
  cases derive with
  | ed25519 =>
    simp only [CacheFits, Derive.wants, Option.some.injEq, forall_eq']
    exact write_cached_transparent_iff hsound hun .Ed25519 clock path
  | encryption_key =>
    simp only [CacheFits, Derive.wants, Option.some.injEq, forall_eq']
    exact write_cached_transparent_iff hsound hun .Aes256Gcm clock path
  | ethereum_key =>
    by_cases hf : env.build.secp256k1 = true
    · simp only [CacheFits, Derive.wants, hf, if_true, Option.some.injEq, forall_eq',
        Derive.at_path, SecretServiceHandle.call]
      exact write_cached_transparent_iff hsound hun .Secp256k1 clock path
    · -- Without the feature the answer does not depend on the state.
      simp [CacheFits, Derive.wants, hf, Derive.at_path, SecretServiceHandle.call]
  | password length =>
    simp only [CacheFits, Derive.wants, Derive.at_path, SecretServiceHandle.call]
    simp [SecretServiceHandle.read, SecretServiceHandle.emptied, hsound.1,
      SecretServiceInner.derive_password]

theorem derive_transparent_sample :
    ∃ handle, Reached (sampleEnv true) sampleConfig sampleHistory handle ∧
      handle.inner.unlocked = true ∧
      ((handle.call (sampleEnv true) ⟨2, 2⟩ (Derive.ed25519.at_path PATHS.ENCRYPTION)).1 =
          (handle.emptied.call (sampleEnv true) ⟨2, 2⟩
            (Derive.ed25519.at_path PATHS.ENCRYPTION)).1 ↔
        CacheFits (sampleEnv true).build handle ⟨2, 2⟩ PATHS.ENCRYPTION .ed25519) :=
  ⟨_, rfl, rfl, derive_transparent_iff (sampleEnv true) sampleConfig sampleHistory _ rfl rfl _ _ _⟩

theorem derive_not_transparent :
    ∃ handle, Reached (sampleEnv false) sampleConfig sampleHistory handle ∧
      handle.inner.unlocked = true ∧
      (handle.call (sampleEnv false) ⟨2, 2⟩ (.derive_encryption_key PATHS.ENCRYPTION)).1 =
        .ok (.key ⟨.Ed25519, List.replicate 32 1, List.replicate 32 2⟩) ∧
      (handle.call (sampleEnv false) ⟨2, 2⟩ (.derive_encryption_key PATHS.ENCRYPTION)).1 ≠
        (handle.emptied.call (sampleEnv false) ⟨2, 2⟩
          (.derive_encryption_key PATHS.ENCRYPTION)).1 :=
  ⟨_, rfl, rfl, rfl, by decide⟩

end Alknet.Secret
