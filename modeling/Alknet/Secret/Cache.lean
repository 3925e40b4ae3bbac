import Alknet.Code.Secret.Service

/-!
# What the cache holds

Later proofs need two facts about the cache: which entry a call finds, and that no
operation makes up an entry. They are stated with `live` and `Holds`, and the
`AList` underneath does not show up again.
-/

namespace Alknet.Secret

def CachedKey.key (entry : CachedKey) : DerivedKey :=
  ⟨entry.key_type, entry.private_key, entry.public_key⟩

@[simp] theorem CachedKey.key_touch (now : Instant) (entry : CachedKey) :
    (entry.touch now).key = entry.key := rfl

@[simp] theorem CachedKey.key_new (now : Instant) (t : KeyType) (priv pub : List UInt8) :
    (CachedKey.new now t priv pub).key = ⟨t, priv, pub⟩ := rfl

namespace KeyCache

/-- The entry at `path` that has not expired when a call checks it. -/
def live (clock : Clock) (path : String) (cache : KeyCache) : Option CachedKey :=
  (cache.entries.lookup path).filter fun entry => !entry.is_expired clock.check cache.config.ttl

/-- The cache has an entry for `key` at `path`, expired or not. -/
def Holds (cache : KeyCache) (path : String) (key : DerivedKey) : Prop :=
  ∃ entry, cache.entries.lookup path = some entry ∧ entry.key = key

theorem live_holds {clock : Clock} {path : String} {cache : KeyCache} {entry : CachedKey}
    (h : cache.live clock path = some entry) : cache.Holds path entry.key := by
  rw [live, Option.filter_eq_some_iff] at h
  exact ⟨entry, h.1, rfl⟩

@[simp] theorem live_new (clock : Clock) (path : String) (config : CacheConfig) :
    (new config).live clock path = none := by
  simp [live, new]

theorem entries_eq_empty {cache : KeyCache} (h : ∀ path key, ¬ cache.Holds path key) :
    cache.entries = ∅ := by
  rcases hc : cache.entries with ⟨_ | ⟨⟨path, entry⟩, rest⟩, hnodup⟩
  · rfl
  · refine absurd ⟨entry, ?_, rfl⟩ (h path entry.key)
    rw [hc, AList.lookup, List.dlookup_cons_eq]

/-! ## Lookups after each operation -/

theorem lookup_remove_entry {cache : KeyCache} {path q : String} {entry : CachedKey}
    (h : (cache.remove_entry path).entries.lookup q = some entry) :
    q ≠ path ∧ cache.entries.lookup q = some entry := by
  have hne : q ≠ path := by
    rintro rfl
    simp [remove_entry] at h
  rw [remove_entry, AList.lookup_erase_ne hne] at h
  exact ⟨hne, h⟩

theorem lookup_evict_lru {cache : KeyCache} {q : String} {entry : CachedKey}
    (h : cache.evict_lru.entries.lookup q = some entry) : cache.entries.lookup q = some entry := by
  unfold evict_lru at h
  split at h
  · exact (lookup_remove_entry h).2
  · exact h

theorem get_fst (clock : Clock) (path : String) (cache : KeyCache) :
    (cache.get clock path).1 = (cache.live clock path).map (CachedKey.touch clock.stamp) := by
  unfold get live
  cases hl : cache.entries.lookup path with
  | none => rfl
  | some entry =>
    by_cases hx : entry.is_expired clock.check cache.config.ttl = true
    · simp [hx, Option.filter]
    · simp [hx, Option.filter]

theorem lookup_get {clock : Clock} {path q : String} {cache : KeyCache} {entry : CachedKey}
    (h : (cache.get clock path).2.entries.lookup q = some entry) :
    ∃ e0, cache.entries.lookup q = some e0 ∧ entry.key = e0.key ∧
      entry.derived_at = e0.derived_at := by
  unfold get at h
  split at h
  · rename_i e0 h0
    split at h
    · exact ⟨entry, (lookup_remove_entry h).2, rfl, rfl⟩
    · simp only [move_to_back] at h
      by_cases hq : q = path
      · -- The entry that was read: touched, with the same key and age.
        subst hq
        rw [AList.lookup_insert, Option.some.injEq] at h
        subst h
        exact ⟨e0, h0, rfl, rfl⟩
      · rw [AList.lookup_insert_ne hq] at h
        exact ⟨entry, h, rfl, rfl⟩
  · exact ⟨entry, h, rfl, rfl⟩

theorem lookup_insert {path q : String} {cached entry : CachedKey} {cache : KeyCache}
    (h : (cache.insert path cached).entries.lookup q = some entry) :
    (q = path ∧ entry = cached) ∨ cache.entries.lookup q = some entry := by
  simp only [insert] at h
  by_cases hq : q = path
  · subst hq
    rw [AList.lookup_insert, Option.some.injEq] at h
    exact Or.inl ⟨rfl, h.symm⟩
  · rw [AList.lookup_insert_ne hq] at h
    right
    split_ifs at h
    · exact (lookup_remove_entry h).2
    · exact lookup_evict_lru h
    · exact h

theorem get_holds {clock : Clock} {path q : String} {cache : KeyCache} {key : DerivedKey}
    (h : (cache.get clock path).2.Holds q key) : cache.Holds q key := by
  obtain ⟨entry, he, hkey⟩ := h
  obtain ⟨e0, h0, hk, -⟩ := lookup_get he
  exact ⟨e0, h0, by rw [← hk, hkey]⟩

theorem insert_holds {path q : String} {cached : CachedKey} {cache : KeyCache} {key : DerivedKey}
    (h : (cache.insert path cached).Holds q key) :
    (q = path ∧ key = cached.key) ∨ cache.Holds q key := by
  obtain ⟨entry, he, hkey⟩ := h
  rcases lookup_insert he with ⟨hq, hentry⟩ | hold
  · exact Or.inl ⟨hq, by rw [← hkey, hentry]⟩
  · exact Or.inr ⟨entry, hold, hkey⟩

@[simp] theorem get_config (clock : Clock) (path : String) (cache : KeyCache) :
    (cache.get clock path).2.config = cache.config := by
  unfold get
  split
  · split <;> rfl
  · rfl

theorem get_live_isSome {clock clock' : Clock} {path q : String} {cache : KeyCache}
    (h : ((cache.get clock path).2.live clock' q).isSome) : (cache.live clock' q).isSome := by
  obtain ⟨entry, he⟩ := Option.isSome_iff_exists.mp h
  rw [live, Option.filter_eq_some_iff, get_config] at he
  obtain ⟨e0, h0, -, hage⟩ := lookup_get he.1
  -- The age decides, and the age is the same.
  have hlive : cache.live clock' q = some e0 := by
    rw [live, Option.filter_eq_some_iff]
    refine ⟨h0, ?_⟩
    simpa only [CachedKey.is_expired, hage] using he.2
  rw [hlive]
  rfl

end KeyCache

end Alknet.Secret
