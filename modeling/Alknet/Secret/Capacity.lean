import Alknet.Secret.Lifecycle
import Alknet.Secret.Lru

/-!
# How many keys the cache holds

A new key at capacity takes the place of the least recently used one. In an empty cache there is no
such key, so the first insert always adds one. What the service does to its cache are operations of
the cache, so the service holds no more keys than its cache may.
-/

open Alknet.Rust Alknet.Lib

namespace Alknet.Secret

open SecretServiceInner

/-! ## The cache -/

namespace KeyCache

theorem length_run_le (config : CacheConfig) (ops : List CacheOp) :
    (run config ops).entries.keys.length ≤ max config.max_entries 1 := by
  rw [(simulates_run config ops).2.length_eq]
  exact Lru.length_run_le _

/-- Some operations lead from one cache to the other. -/
def Leads (before after : KeyCache) : Prop := ∃ ops : List CacheOp, ops.foldl step before = after

theorem Leads.refl (cache : KeyCache) : cache.Leads cache := ⟨[], rfl⟩

theorem Leads.of_run {config : CacheConfig} {ops : List CacheOp} {after : KeyCache}
    (h : (run config ops).Leads after) : ∃ ops, run config ops = after := by
  obtain ⟨further, rfl⟩ := h
  exact ⟨ops ++ further, List.foldl_append ..⟩

end KeyCache

/-! ## The service -/

theorem cached_or_derive_leads
    (derive : List UInt8 → String → Outcome DerivationError KeyPair) (key_type : KeyType)
    (clock : Clock) (path : String) (inner : SecretServiceInner) :
    inner.cache.Leads (cached_or_derive derive key_type clock path inner).2.cache := by
  have hget : inner.cache.Leads (inner.cache.get clock path).2 := ⟨[.get clock path], rfl⟩
  unfold cached_or_derive
  rcases hc : inner.cache.get clock path with ⟨_ | cached, cache⟩
  · rw [hc] at hget
    cases inner.seed with
    | none => exact hget
    | some seed =>
      dsimp only
      cases derive seed.bytes path with
      | error f => exact hget
      | ok key =>
        refine ⟨[.get clock path, .insert path
          (.new clock.stamp key_type key.private_key.toList key.public_key)], ?_⟩
        simp only [List.foldl_cons, List.foldl_nil, KeyCache.step, hc]
  · rw [hc] at hget
    exact hget

theorem unlock_cache (env : Env) (phrase : String) (passphrase : Option String)
    (inner : SecretServiceInner) :
    (SecretServiceInner.unlock env phrase passphrase inner).2.cache = inner.cache := by
  unfold SecretServiceInner.unlock
  split
  · rfl
  · cases Mnemonic.from_phrase env.bip39 phrase with
    | error e => rfl
    | ok mnemonic =>
      dsimp only
      cases mnemonic.to_seed env.bip39 passphrase <;> rfl

theorem unlock_new_cache (env : Env) (word_count : Nat) (entropy : List UInt8)
    (inner : SecretServiceInner) :
    (SecretServiceInner.unlock_new env word_count entropy inner).2.cache = inner.cache := by
  unfold SecretServiceInner.unlock_new
  split
  · rfl
  · cases Mnemonic.generate env.bip39 word_count entropy with
    | error e => rfl
    | ok mnemonic =>
      dsimp only
      cases mnemonic.to_seed env.bip39 none <;> rfl

theorem write_leads {α : Type} {handle : SecretServiceHandle}
    {body : SecretServiceInner → Outcome SecretServiceError α × SecretServiceInner}
    (h : handle.inner.cache.Leads (body handle.inner).2.cache) :
    handle.inner.cache.Leads (handle.write body).2.inner.cache := by
  unfold SecretServiceHandle.write
  split
  · exact .refl _
  · exact h

theorem call_leads (env : Env) (handle : SecretServiceHandle) (clock : Clock) (call : Call) :
    handle.inner.cache.Leads (handle.call env clock call).2.inner.cache := by
  cases hcall : call.turnsLock with
  | false =>
    exact call_relates (R := fun before after => before.cache.Leads after.cache) (fun _ => .refl _)
      (fun key_type _ => cached_or_derive_leads (derivation env key_type) key_type)
      handle clock call
      hcall
  | true =>
    cases call with
    | unlock phrase passphrase =>
      exact write_leads ⟨[], (unlock_cache env phrase passphrase handle.inner).symm⟩
    | unlock_new word_count entropy =>
      exact write_leads ⟨[], (unlock_new_cache env word_count entropy handle.inner).symm⟩
    | lock => exact write_leads ⟨[.clear], rfl⟩
    | _ => simp [Call.turnsLock] at hcall

theorem reached_cache {env : Env} {config : CacheConfig} {history : List (Clock × Call)}
    {handle : SecretServiceHandle} (h : Reached env config history handle) :
    ∃ ops, KeyCache.run config ops = handle.inner.cache := by
  have hkeeps : ∀ (handle : SecretServiceHandle) (at_call : Clock × Call)
      (after : SecretServiceHandle), (∃ ops, KeyCache.run config ops = handle.inner.cache) →
      handle.step env at_call = some after →
      ∃ ops, KeyCache.run config ops = after.inner.cache := by
    rintro handle at_call after ⟨ops, hops⟩ hstep
    obtain ⟨-, rfl⟩ := step_eq_some.mp hstep
    have hleads := call_leads env handle at_call.1 at_call.2
    rw [← hops] at hleads
    exact hleads.of_run
  exact run_keeps hkeeps ⟨[], rfl⟩ h

/-! ## The capacity -/

/-- No sequence of operations, and no history of the service, makes more entries than the
configuration allows. -/
def CapacityRespected (config : CacheConfig) : Prop :=
  (∀ ops, (KeyCache.run config ops).entries.keys.length ≤ config.max_entries) ∧
    ∀ env history handle, Reached env config history handle →
      handle.inner.cache.entries.keys.length ≤ config.max_entries

def sampleKey : CachedKey := .new 0 .Ed25519 [1] [2]

theorem cache_capacity_iff (config : CacheConfig) :
    CapacityRespected config ↔ 0 < config.max_entries := by
  constructor
  · rintro ⟨hcache, -⟩
    have hone := hcache [.insert "m" sampleKey]
    have hlen : (KeyCache.run config [.insert "m" sampleKey]).entries.keys.length = 1 := by
      simp [KeyCache.run, KeyCache.step, KeyCache.insert, KeyCache.new, KeyCache.evict_lru]
    omega
  · intro hpos
    have hcache : ∀ ops, (KeyCache.run config ops).entries.keys.length ≤ config.max_entries := by
      intro ops
      have hle := KeyCache.length_run_le config ops
      rwa [Nat.max_eq_left hpos] at hle
    refine ⟨hcache, fun env history handle h => ?_⟩
    obtain ⟨ops, hops⟩ := reached_cache h
    rw [← hops]
    exact hcache ops

theorem zero_capacity_keeps_key :
    ∃ handle, Reached (sampleEnv true) ⟨3600, 0⟩ sampleHistory handle ∧
      handle.inner.cache.config.max_entries = 0 ∧
      (handle.inner.cache.entries.lookup PATHS.ENCRYPTION).map CachedKey.private_key =
        some (List.replicate 32 1) ∧
      ¬ CapacityRespected ⟨3600, 0⟩ := by
  refine ⟨_, rfl, rfl, rfl, ?_⟩
  intro h
  have hpos := h.1 [.insert "m" sampleKey]
  revert hpos
  decide

end Alknet.Secret
