import Mathlib.Data.List.AList

/-!
# cache.rs: the TTL cache with LRU eviction

The `HashMap` is an `AList`, which keeps its keys distinct. An `Instant` is a number
of nanoseconds, so `duration_since` saturates at zero as `Nat` subtraction does.
-/

namespace Alknet.Secret

abbrev Instant := Nat
abbrev Duration := Nat

inductive KeyType
  | Ed25519
  | Aes256Gcm
  | Secp256k1
  deriving DecidableEq, Repr

structure CachedKey where
  derived_at : Instant
  key_type : KeyType
  private_key : List UInt8
  public_key : List UInt8
  last_accessed : Instant
  deriving DecidableEq, Repr

def CachedKey.new (now : Instant) (key_type : KeyType) (private_key public_key : List UInt8) :
    CachedKey where
  derived_at := now
  key_type := key_type
  private_key := private_key
  public_key := public_key
  last_accessed := now

def CachedKey.is_expired (now : Instant) (ttl : Duration) (key : CachedKey) : Bool :=
  ttl < now - key.derived_at

def CachedKey.touch (now : Instant) (key : CachedKey) : CachedKey :=
  { key with last_accessed := now }

structure CacheConfig where
  ttl : Duration
  max_entries : Nat
  deriving DecidableEq, Repr

structure KeyCache where
  entries : AList (fun _ : String => CachedKey)
  order : List String
  config : CacheConfig

/-- The clock is read twice in one call: to check an entry, then to stamp or touch it. -/
structure Clock where
  check : Instant
  stamp : Instant
  deriving DecidableEq, Repr

namespace KeyCache

def new (config : CacheConfig) : KeyCache where
  entries := ∅
  order := []
  config := config

def remove_entry (path : String) (cache : KeyCache) : KeyCache :=
  { cache with
    entries := cache.entries.erase path
    order := cache.order.filter (· != path) }

def evict_lru (cache : KeyCache) : KeyCache :=
  match cache.order.head? with
  | some lru_path => cache.remove_entry lru_path
  | none => cache

def move_to_back (path : String) (cache : KeyCache) : KeyCache :=
  { cache with order := cache.order.filter (· != path) ++ [path] }

def get (clock : Clock) (path : String) (cache : KeyCache) : Option CachedKey × KeyCache :=
  match cache.entries.lookup path with
  | some entry =>
    if entry.is_expired clock.check cache.config.ttl then (none, cache.remove_entry path)
    else
      let entry := entry.touch clock.stamp
      let cache := { cache with entries := cache.entries.insert path entry }
      (some entry, cache.move_to_back path)
  | none => (none, cache)

def insert (path : String) (key : CachedKey) (cache : KeyCache) : KeyCache :=
  let cache :=
    if (cache.entries.lookup path).isSome then cache.remove_entry path
    else if cache.config.max_entries ≤ cache.entries.keys.length then cache.evict_lru
    else cache
  { cache with
    entries := cache.entries.insert path key
    order := cache.order ++ [path] }

/-- The clock is read once for each entry. -/
def evict_expired (now : String → Instant) (cache : KeyCache) : KeyCache :=
  let expired := (cache.entries.entries.filter fun entry =>
    entry.2.is_expired (now entry.1) cache.config.ttl).map Sigma.fst
  expired.foldl (fun cache path => cache.remove_entry path) cache

def clear (cache : KeyCache) : KeyCache :=
  { cache with entries := ∅, order := [] }

end KeyCache

end Alknet.Secret
