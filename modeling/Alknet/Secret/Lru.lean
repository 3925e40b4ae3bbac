import Alknet.Lib.Lru
import Alknet.Secret.Cache

/-!
# The cache is an LRU map with a hard lifetime

The map and the order list of the cache together are one list of entries in the order of their last
use. A read changes the time of the last access and nothing else of an entry, so the lifetime counts
from the time at which the key was made.
-/

open Alknet.Lib

namespace Alknet.Secret

/-- The entry as it was made. -/
def CachedKey.untouched (entry : CachedKey) : CachedKey := entry.touch entry.derived_at

@[simp] theorem CachedKey.untouched_touch (now : Instant) (entry : CachedKey) :
    (entry.touch now).untouched = entry.untouched := rfl

theorem CachedKey.touch_eq {entry key : CachedKey} (h : entry.untouched = key.untouched)
    (now : Instant) : entry.touch now = key.touch now := by
  have htouch := congrArg (touch now) h
  exact htouch

theorem CachedKey.is_expired_eq {entry key : CachedKey} (h : entry.untouched = key.untouched)
    (now : Instant) (ttl : Duration) : entry.is_expired now ttl = key.is_expired now ttl := by
  have hexpired := congrArg (is_expired now ttl) h
  exact hexpired

inductive CacheOp where
  | get (clock : Clock) (path : String)
  | insert (path : String) (key : CachedKey)
  | evict_expired (now : String → Instant)
  | clear

/-- What the operation is to an LRU map. -/
def CacheOp.abstract (ttl : Duration) : CacheOp → Lru.Op String CachedKey
  | .get clock path => .read path (·.is_expired clock.check ttl)
  | .insert path key => .put path key
  | .evict_expired now => .sweep fun path key => key.is_expired (now path) ttl
  | .clear => .clear

namespace KeyCache

def step (cache : KeyCache) : CacheOp → KeyCache
  | .get clock path => (cache.get clock path).2
  | .insert path key => cache.insert path key
  | .evict_expired now => cache.evict_expired now
  | .clear => cache.clear

def run (config : CacheConfig) (ops : List CacheOp) : KeyCache := ops.foldl step (new config)

/-! ## Removing entries -/

theorem lookup_remove_entry_eq (path q : String) (cache : KeyCache) :
    (cache.remove_entry path).entries.lookup q =
      if q = path then none else cache.entries.lookup q := by
  by_cases h : q = path
  · rw [if_pos h, h]
    exact AList.lookup_erase path cache.entries
  · rw [if_neg h]
    exact AList.lookup_erase_ne h

theorem lookup_remove_entries (paths : List String) (q : String) (cache : KeyCache) :
    (paths.foldl (fun cache path => cache.remove_entry path) cache).entries.lookup q =
      if q ∈ paths then none else cache.entries.lookup q := by
  induction paths generalizing cache with
  | nil => simp
  | cons path paths ih =>
    rw [List.foldl_cons, ih, lookup_remove_entry_eq]
    grind

theorem order_remove_entries (paths : List String) (cache : KeyCache) :
    (paths.foldl (fun cache path => cache.remove_entry path) cache).order =
      cache.order.filter (· ∉ paths) := by
  induction paths generalizing cache with
  | nil => simp
  | cons path paths ih =>
    rw [List.foldl_cons, ih]
    simp only [remove_entry, List.filter_filter]
    exact List.filter_congr fun q _ => by grind

theorem config_remove_entries (paths : List String) (cache : KeyCache) :
    (paths.foldl (fun cache path => cache.remove_entry path) cache).config = cache.config := by
  induction paths generalizing cache with
  | nil => rfl
  | cons path paths ih => exact ih (cache.remove_entry path)

theorem mem_expired (now : String → Instant) (cache : KeyCache) (q : String) :
    q ∈ (cache.entries.entries.filter fun entry =>
        entry.2.is_expired (now entry.1) cache.config.ttl).map Sigma.fst ↔
      (cache.entries.lookup q).any (·.is_expired (now q) cache.config.ttl) := by
  rw [Option.any_eq_true]
  simp only [List.mem_map, List.mem_filter, Sigma.exists, exists_and_right, exists_eq_right,
    ← Option.mem_def, AList.mem_lookup_iff]

theorem lookup_evict_expired (now : String → Instant) (cache : KeyCache) (q : String) :
    (cache.evict_expired now).entries.lookup q =
      (cache.entries.lookup q).filter fun key => !key.is_expired (now q) cache.config.ttl := by
  rw [evict_expired, lookup_remove_entries]
  simp only [mem_expired]
  cases cache.entries.lookup q with
  | none => simp
  | some entry =>
    by_cases h : entry.is_expired (now q) cache.config.ttl <;> simp [h, Option.filter]

theorem order_evict_expired (now : String → Instant) (cache : KeyCache) :
    (cache.evict_expired now).order = cache.order.filter fun q =>
      !(cache.entries.lookup q).any (·.is_expired (now q) cache.config.ttl) := by
  rw [evict_expired, order_remove_entries]
  exact List.filter_congr fun q _ => by simp [mem_expired]

theorem order_evict_lru_subset (cache : KeyCache) : cache.evict_lru.order ⊆ cache.order := by
  unfold evict_lru
  split
  · exact List.filter_subset_self _
  · exact List.Subset.refl _

theorem lookup_insert_eq (path q : String) (entry : CachedKey)
    (entries : AList fun _ : String => CachedKey) :
    (entries.insert path entry).lookup q =
      if q = path then some entry else entries.lookup q := by
  by_cases h : q = path
  · rw [if_pos h, h]
    exact AList.lookup_insert entries
  · rw [if_neg h]
    exact AList.lookup_insert_ne h

/-! ## The simulation -/

structure Simulates (cache : KeyCache) (lru : Lru String CachedKey) : Prop where
  order : cache.order = lru.keys.reverse
  lookup : ∀ path, (cache.entries.lookup path).map CachedKey.untouched =
    (lru.lookup path).map CachedKey.untouched

namespace Simulates

variable {cache : KeyCache} {lru : Lru String CachedKey}

theorem of_lookup_eq_some (h : Simulates cache lru) {path : String} {entry : CachedKey}
    (hentry : cache.entries.lookup path = some entry) :
    ∃ key, lru.lookup path = some key ∧ entry.untouched = key.untouched := by
  have hlookup := h.lookup path
  rw [hentry] at hlookup
  obtain ⟨key, hkey, hsame⟩ := Option.map_eq_some_iff.mp hlookup.symm
  exact ⟨key, hkey, hsame.symm⟩

theorem of_lookup_eq_none (h : Simulates cache lru) {path : String}
    (hentry : cache.entries.lookup path = none) : lru.lookup path = none := by
  have hlookup := h.lookup path
  rw [hentry] at hlookup
  exact Option.map_eq_none_iff.mp hlookup.symm

theorem mem_iff (h : Simulates cache lru) (path : String) : path ∈ cache.entries ↔ path ∈ lru := by
  rw [← AList.lookup_isSome, ← AList.lookup_isSome]
  have hlookup := congrArg Option.isSome (h.lookup path)
  simp only [Option.isSome_map] at hlookup
  rw [hlookup]

theorem nodup (h : Simulates cache lru) : cache.order.Nodup := by
  rw [h.order, List.nodup_reverse]
  exact lru.keys_nodup

theorem mem_order_iff (h : Simulates cache lru) (path : String) :
    path ∈ cache.order ↔ path ∈ cache.entries := by
  rw [h.order, List.mem_reverse, ← AList.mem_keys, h.mem_iff]

theorem length_eq (h : Simulates cache lru) :
    cache.entries.keys.length = lru.keys.length := by
  refine List.Perm.length_eq ((List.perm_ext_iff_of_nodup cache.entries.keys_nodup
    lru.keys_nodup).mpr fun path => ?_)
  rw [← AList.mem_keys, ← AList.mem_keys, h.mem_iff]

theorem keep (h : Simulates cache lru) {cache' : KeyCache} {p : String → CachedKey → Bool}
    (gone : String → Bool)
    (hp : ∀ path key, lru.lookup path = some key → p path key = !gone path)
    (horder : cache'.order = cache.order.filter (!gone ·))
    (hlookup : ∀ path, cache'.entries.lookup path =
      if gone path then none else cache.entries.lookup path) :
    Simulates cache' (lru.keep p) := by
  constructor
  · rw [horder, Lru.keys_keep, h.order, List.filter_reverse]
    congr 1
    refine List.filter_congr fun path hpath => ?_
    obtain ⟨key, hkey⟩ := Option.isSome_iff_exists.mp
      (AList.lookup_isSome.mpr (AList.mem_keys.mpr hpath))
    rw [hkey, Option.any_some, hp path key hkey]
  · intro path
    rw [hlookup, Lru.lookup_keep]
    cases hkey : lru.lookup path with
    | none =>
      have hnone := h.lookup path
      rw [hkey] at hnone
      rw [Option.map_eq_none_iff.mp hnone, ite_self]
      rfl
    | some key =>
      have hsome := h.lookup path
      rw [hkey] at hsome
      by_cases hgone : gone path = true <;> simp [Option.filter, hp path key hkey, hgone, hsome]

theorem keep_all (h : Simulates cache lru) {p : String → CachedKey → Bool}
    (hp : ∀ path key, lru.lookup path = some key → p path key = true) :
    Simulates cache (lru.keep p) :=
  h.keep (fun _ => false) (fun path key hkey => by simp [hp path key hkey]) (by simp) (by simp)

theorem remove_entry (h : Simulates cache lru) {path : String} {p : String → CachedKey → Bool}
    (hp : ∀ q key, lru.lookup q = some key → p q key = !decide (q = path)) :
    Simulates (cache.remove_entry path) (lru.keep p) :=
  h.keep (fun q => q = path) hp
    (List.filter_congr fun q _ => by by_cases hq : q = path <;> simp [hq])
    fun q => by simp [lookup_remove_entry_eq]

theorem use (h : Simulates cache lru) {cache' : KeyCache} {path : String} {entry key : CachedKey}
    (hsame : entry.untouched = key.untouched)
    (horder : cache'.order = cache.order.filter (· != path) ++ [path])
    (hlookup : ∀ q, cache'.entries.lookup q =
      if q = path then some entry else cache.entries.lookup q) :
    Simulates cache' (lru.insert path key) := by
  constructor
  · rw [horder, AList.keys_insert, List.reverse_cons, lru.keys_nodup.erase_eq_filter, h.order,
      List.filter_reverse]
  · intro q
    rw [hlookup]
    by_cases hq : q = path
    · subst hq
      rw [if_pos rfl, AList.lookup_insert, Option.map_some, Option.map_some, hsame]
    · rw [if_neg hq, AList.lookup_insert_ne hq, h.lookup]

theorem keep_read (h : Simulates cache lru) {capacity : Nat} {path : String}
    {dead : CachedKey → Bool} (halive : ∀ key, lru.lookup path = some key → dead key = false) :
    Simulates cache (lru.keep fun q key => !Lru.removes capacity lru (.read path dead) q key) := by
  refine h.keep_all fun q key hkey => ?_
  by_cases hq : q = path
  · subst hq
    simp [Lru.removes, halive key hkey]
  · simp [Lru.removes, hq]

theorem get (h : Simulates cache lru) (clock : Clock) (path : String) :
    Simulates (cache.get clock path).2
      (lru.step cache.config.max_entries
        (.read path (·.is_expired clock.check cache.config.ttl))) := by
  unfold KeyCache.get
  cases hentry : cache.entries.lookup path with
  | none =>
    have hkey := h.of_lookup_eq_none hentry
    rw [Lru.step_of_used_none (by rw [Lru.used, hkey]; rfl)]
    exact h.keep_read (by simp [hkey])
  | some entry =>
    obtain ⟨key, hkey, hsame⟩ := h.of_lookup_eq_some hentry
    have hexpired := CachedKey.is_expired_eq hsame clock.check cache.config.ttl
    dsimp only
    split
    · next hx =>
      rw [hx] at hexpired
      rw [Lru.step_of_used_none (by simp [Lru.used, hkey, Option.filter, ← hexpired])]
      refine h.remove_entry fun q key' hq => ?_
      by_cases hne : q = path
      · subst hne
        obtain rfl := Option.some.inj (hkey.symm.trans hq)
        simp [Lru.removes, ← hexpired]
      · simp [Lru.removes, hne]
    · next hx =>
      rw [Bool.of_not_eq_true hx] at hexpired
      rw [Lru.step_of_used_some (k := path) (v := key)
        (by simp [Lru.used, hkey, Option.filter, ← hexpired])]
      have htouched : (entry.touch clock.stamp).untouched = key.untouched := hsame
      refine (h.keep_read fun key' hq => ?_).use htouched rfl
        fun q => lookup_insert_eq path q _ cache.entries
      obtain rfl := Option.some.inj (hkey.symm.trans hq)
      exact hexpired.symm

theorem evict_lru (h : Simulates cache lru) {p : String → CachedKey → Bool}
    (hp : ∀ q key, lru.lookup q = some key → p q key = !decide (lru.oldest = some q)) :
    Simulates cache.evict_lru (lru.keep p) := by
  have holdest : cache.order.head? = lru.oldest := by
    rw [h.order, List.head?_reverse]
    rfl
  unfold KeyCache.evict_lru
  split
  · next lru_path hhead =>
    rw [holdest] at hhead
    refine h.remove_entry fun q key hkey => ?_
    simp [hp q key hkey, hhead, eq_comm]
  · next hhead =>
    rw [holdest] at hhead
    exact h.keep_all fun q key hkey => by simp [hp q key hkey, hhead]

theorem push (h : Simulates cache lru) {path : String} (hnew : path ∉ cache.order)
    (key : CachedKey) :
    Simulates { cache with
      entries := cache.entries.insert path key
      order := cache.order ++ [path] } (lru.insert path key) := by
  refine h.use rfl ?_ fun q => lookup_insert_eq path q key cache.entries
  rw [List.filter_eq_self.mpr fun q hq => by
    rw [bne_iff_ne]
    rintro rfl
    exact hnew hq]

theorem insert (h : Simulates cache lru) (path : String) (key : CachedKey) :
    Simulates (cache.insert path key)
      (lru.step cache.config.max_entries (.put path key)) := by
  rw [Lru.step_of_used_some rfl]
  unfold KeyCache.insert
  by_cases hmem : (cache.entries.lookup path).isSome
  · -- the entry is replaced
    simp only [hmem, if_true]
    have hlru : path ∈ lru := (h.mem_iff path).mp (AList.lookup_isSome.mp hmem)
    refine (h.keep_all fun q key' _ => by simp [Lru.removes, hlru]).use rfl rfl fun q => ?_
    rw [lookup_insert_eq, lookup_remove_entry_eq]
    grind
  · have hnew : path ∉ cache.order := fun hpath =>
      hmem (AList.lookup_isSome.mpr ((h.mem_order_iff path).mp hpath))
    have hlru : path ∉ lru := fun hpath =>
      hmem (AList.lookup_isSome.mpr ((h.mem_iff path).mpr hpath))
    simp only [hmem, Bool.false_eq_true, if_false]
    split
    · next hfull =>
      rw [h.length_eq] at hfull
      refine push (h.evict_lru fun q key' _ => ?_) (fun hpath => hnew ?_) key
      · simp [Lru.removes, hlru, hfull]
      · exact order_evict_lru_subset cache hpath
    · next hroom =>
      rw [h.length_eq] at hroom
      exact push (h.keep_all fun q key' _ => by simp [Lru.removes, hroom]) hnew key

theorem evict_expired (h : Simulates cache lru) (now : String → Instant) :
    Simulates (cache.evict_expired now)
      (lru.step cache.config.max_entries
        (.sweep fun path key => key.is_expired (now path) cache.config.ttl)) := by
  rw [Lru.step_of_used_none rfl]
  refine h.keep _ (fun path key hkey => ?_) (order_evict_expired now cache) fun path => ?_
  · have hlookup := h.lookup path
    rw [hkey] at hlookup
    obtain ⟨entry, hentry, hsame⟩ := Option.map_eq_some_iff.mp hlookup
    rw [hentry, Option.any_some, CachedKey.is_expired_eq hsame]
    rfl
  · rw [lookup_evict_expired]
    cases cache.entries.lookup path with
    | none => rfl
    | some entry => by_cases hx : entry.is_expired (now path) cache.config.ttl <;>
        simp [hx, Option.filter]

theorem clear (h : Simulates cache lru) :
    Simulates cache.clear (lru.step cache.config.max_entries .clear) := by
  rw [Lru.step_of_used_none rfl]
  exact h.keep (fun _ => true) (fun _ _ _ => rfl) (by simp [KeyCache.clear])
    (by simp [KeyCache.clear])

end Simulates

theorem simulates_step {cache : KeyCache} {lru : Lru String CachedKey} (h : Simulates cache lru)
    (op : CacheOp) :
    Simulates (cache.step op)
      (lru.step cache.config.max_entries (op.abstract cache.config.ttl)) := by
  cases op with
  | get clock path => exact h.get clock path
  | insert path key => exact h.insert path key
  | evict_expired now => exact h.evict_expired now
  | clear => exact h.clear

theorem step_config (cache : KeyCache) (op : CacheOp) :
    (cache.step op).config = cache.config := by
  cases op with
  | get clock path => exact get_config clock path cache
  | insert path key =>
    simp only [step, insert, evict_lru, remove_entry]
    split_ifs
    · rfl
    · cases cache.order.head? <;> rfl
    · rfl
  | evict_expired now => exact config_remove_entries _ cache
  | clear => rfl

/-- The cache after any sequence of operations is the LRU map after it. -/
theorem simulates_run (config : CacheConfig) (ops : List CacheOp) :
    (run config ops).config = config ∧
      Simulates (run config ops)
        (Lru.run config.max_entries ∅ (ops.map (CacheOp.abstract config.ttl))) := by
  induction ops using List.reverseRecOn with
  | nil => exact ⟨rfl, rfl, fun _ => rfl⟩
  | append_singleton ops op ih =>
    obtain ⟨hconfig, hsim⟩ := ih
    have hrun : run config (ops ++ [op]) = (run config ops).step op := List.foldl_concat ..
    rw [hrun, List.map_append, List.map_singleton, Lru.run_concat, step_config]
    have hstep := simulates_step hsim op
    rw [hconfig] at hstep
    exact ⟨hconfig, hstep⟩

/-! ## What follows -/

theorem insert_at_capacity {cache : KeyCache} (hnodup : cache.order.Nodup) {path : String}
    (hnew : path ∉ cache.entries) (hfull : cache.config.max_entries ≤ cache.entries.keys.length)
    (key : CachedKey) :
    (cache.insert path key).order = cache.order.tail ++ [path] ∧
      ∀ q, (cache.insert path key).entries.lookup q =
        if q = path then some key
        else if cache.order.head? = some q then none else cache.entries.lookup q := by
  have hlookup : (cache.entries.lookup path).isSome = false := by
    simpa [← AList.lookup_isSome] using hnew
  simp only [insert, hlookup, Bool.false_eq_true, if_false, hfull, if_true, lookup_insert_eq]
  unfold evict_lru
  cases horder : cache.order with
  | nil => simp [horder]
  | cons lru_path order =>
    rw [horder, List.nodup_cons] at hnodup
    constructor
    · simp only [List.head?_cons, remove_entry, horder]
      rw [List.filter_cons_of_neg (by simp), List.filter_eq_self.mpr fun q hq => by
        rw [bne_iff_ne]
        rintro rfl
        exact hnodup.1 hq]
      rfl
    · intro q
      simp only [List.head?_cons, lookup_remove_entry_eq, Option.some.injEq, eq_comm]

/-- The path that the operation inserts or reads with success. -/
def used (cache : KeyCache) : CacheOp → Option String
  | .get clock path => if (cache.get clock path).1.isSome then some path else none
  | .insert path _ => some path
  | .evict_expired _ | .clear => none

/-- The paths that were inserted or read with success, the most recent one last. -/
def uses : KeyCache → List CacheOp → List String
  | _, [] => []
  | cache, op :: ops => (cache.used op).toList ++ uses (cache.step op) ops

/-- The key was inserted at the path, and since then it was not replaced, evicted or cleared. -/
def Resident (config : CacheConfig) (ops : List CacheOp) (path : String) (key : CachedKey) : Prop :=
  Lru.Resident config.max_entries (ops.map (CacheOp.abstract config.ttl)) path key

theorem get_eq_some_iff {cache : KeyCache} {lru : Lru String CachedKey} (h : Simulates cache lru)
    (clock : Clock) (path : String) (entry : CachedKey) :
    (cache.get clock path).1 = some entry ↔
      ∃ key, lru.lookup path = some key ∧ key.is_expired clock.check cache.config.ttl = false ∧
        entry = key.touch clock.stamp := by
  rw [get_fst, live]
  constructor
  · intro hget
    obtain ⟨found, hfound, rfl⟩ := Option.map_eq_some_iff.mp hget
    obtain ⟨hentry, halive⟩ := Option.filter_eq_some_iff.mp hfound
    obtain ⟨key, hkey, hsame⟩ := h.of_lookup_eq_some hentry
    rw [CachedKey.is_expired_eq hsame, Bool.not_eq_true'] at halive
    exact ⟨key, hkey, halive, CachedKey.touch_eq hsame clock.stamp⟩
  · rintro ⟨key, hkey, halive, rfl⟩
    have hlookup := h.lookup path
    rw [hkey] at hlookup
    obtain ⟨found, hfound, hsame⟩ := Option.map_eq_some_iff.mp hlookup
    rw [hfound, ← CachedKey.touch_eq hsame clock.stamp]
    rw [← CachedKey.is_expired_eq hsame] at halive
    simp [Option.filter, halive]

theorem used_eq {cache : KeyCache} {lru : Lru String CachedKey} (h : Simulates cache lru)
    (op : CacheOp) :
    cache.used op = (lru.used (op.abstract cache.config.ttl)).map Prod.fst := by
  cases op with
  | get clock path =>
    simp only [used, CacheOp.abstract, Lru.used]
    cases hget : (cache.get clock path).1 with
    | some entry =>
      obtain ⟨key, hkey, halive, -⟩ := (get_eq_some_iff h clock path entry).mp hget
      simp [hkey, Option.filter, halive]
    | none =>
      cases hkey : lru.lookup path with
      | none => rfl
      | some key =>
        by_cases halive : key.is_expired clock.check cache.config.ttl = true
        · simp [Option.filter, halive]
        · have hsome := (get_eq_some_iff h clock path _).mpr
            ⟨key, hkey, Bool.of_not_eq_true halive, rfl⟩
          rw [hget] at hsome
          cases hsome
  | insert path key => rfl
  | evict_expired now => rfl
  | clear => rfl

theorem uses_eq {cache : KeyCache} {lru : Lru String CachedKey} (h : Simulates cache lru)
    (ops : List CacheOp) :
    cache.uses ops =
      lru.uses cache.config.max_entries (ops.map (CacheOp.abstract cache.config.ttl)) := by
  induction ops generalizing cache lru with
  | nil => rfl
  | cons op ops ih =>
    rw [uses, List.map_cons, Lru.uses, used_eq h op, ih (simulates_step h op), step_config]

/-- **The key cache is an LRU map** whose entries expire. -/
theorem key_cache_is_lru (config : CacheConfig) (ops : List CacheOp) :
    ((run config ops).order.Nodup ∧
      (∀ path, path ∈ (run config ops).order ↔ path ∈ (run config ops).entries) ∧
      (run config ops).order =
        ((new config).uses ops).dedup.filter (· ∈ (run config ops).entries)) ∧
    (∀ path key, path ∉ (run config ops).entries →
      config.max_entries ≤ (run config ops).entries.keys.length →
      ((run config ops).insert path key).order = (run config ops).order.tail ++ [path] ∧
        ∀ q, ((run config ops).insert path key).entries.lookup q =
          if q = path then some key
          else if (run config ops).order.head? = some q then none
          else (run config ops).entries.lookup q) ∧
    (∀ clock path entry, ((run config ops).get clock path).1 = some entry ↔
      ∃ key, Resident config ops path key ∧ clock.check - key.derived_at ≤ config.ttl ∧
        entry = key.touch clock.stamp) ∧
    (∀ now path, ((run config ops).evict_expired now).entries.lookup path =
      ((run config ops).entries.lookup path).filter
        fun key => decide (now path - key.derived_at ≤ config.ttl)) := by
  obtain ⟨hconfig, hsim⟩ := simulates_run config ops
  refine ⟨⟨hsim.nodup, hsim.mem_order_iff, ?_⟩, fun path key hnew hfull => ?_,
    fun clock path entry => ?_, fun now path => ?_⟩
  · rw [hsim.order, Lru.keys_run, @uses_eq (new config) ∅ ⟨rfl, fun _ => rfl⟩ ops]
    exact List.filter_congr fun path _ => by simp [hsim.mem_iff]
  · exact insert_at_capacity hsim.nodup hnew (by rwa [hconfig]) key
  · rw [get_eq_some_iff hsim]
    simp only [Lru.lookup_run, hconfig, CachedKey.is_expired, decide_eq_false_iff_not, not_lt]
    rfl
  · rw [lookup_evict_expired, hconfig]
    congr 1
    funext key
    simp only [CachedKey.is_expired, ← decide_not, not_lt]

end KeyCache

end Alknet.Secret
