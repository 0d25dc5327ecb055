import CompletionCache.Backend.Basic
import CompletionCache.Recency

/-!
# The cache in process

A `LocalCache` keeps entries in a table ordered by use. An entry leaves it when it is deleted, when
a lookup finds it expired, when a sweep finds it expired, or when the table is full and it was used
least recently. A lookup and a write sweep first if the last sweep is longer ago than the cleanup
interval.
-/

set_option autoImplicit false

namespace CompletionCache

/-- The cache in process. -/
structure LocalCache where
  config : Config
  cleanupInterval : Duration
  entries : Recency Entry
  lastSweep : Instant
  hits : Nat
  misses : Nat

namespace LocalCache

/-- The cleanup interval in seconds, unless it is set. -/
def defaultCleanupSeconds : UInt64 := 60

/-- The name of this kind of cache. -/
def name : String := "local"

/-- An empty cache, made when the monotonic clock shows `mono`. -/
def create (config : Config) (mono : Instant) : LocalCache :=
  ⟨config, Duration.ofSeconds defaultCleanupSeconds.toNat, .empty, mono, 0, 0⟩

/-- The cache with another cleanup interval. -/
def withCleanupInterval (cache : LocalCache) (interval : Duration) : LocalCache :=
  { cache with cleanupInterval := interval }

/-- How many entries the cache holds, expired ones included. -/
def size (cache : LocalCache) : Nat := cache.entries.size

/-- Whether a sweep is due. -/
def sweepDue (cache : LocalCache) (clocks : Clocks) : Bool :=
  decide (cache.cleanupInterval < (clocks.mono - cache.lastSweep).toNat)

/-- Removes the expired entries if a sweep is due. -/
def sweep (cache : LocalCache) (clocks : Clocks) : LocalCache :=
  if cache.sweepDue clocks then
    { cache with
      lastSweep := clocks.mono
      entries := cache.entries.retain fun entry => !entry.isExpiredAt clocks.wall }
  else cache

/-- Looks a key up. An entry that is found counts as used and its lookup as a hit; an expired one is
removed and its lookup, like that of an absent one, is a miss. -/
def get (cache : LocalCache) (clocks : Clocks) (key : String) : Option Entry × LocalCache :=
  let cache := cache.sweep clocks
  match cache.entries.find? key with
  | none => (none, { cache with misses := cache.misses + 1 })
  | some entry =>
    if entry.isExpiredAt clocks.wall then
      (none, { cache with entries := cache.entries.erase key, misses := cache.misses + 1 })
    else (some entry, { cache with entries := cache.entries.touch key, hits := cache.hits + 1 })

/-- The table with room for one more entry under a capacity: the least recently used ones leave. -/
def makeRoom (capacity : Option Nat) (entries : Recency Entry) : Recency Entry :=
  match capacity with
  | none => entries
  | some capacity => entries.keepLatest (capacity - 1)

/-- Keeps a response under a key, as the entry used last. An entry under that key leaves first, so
that it does not push out another one. -/
def set (cache : LocalCache) (clocks : Clocks) (key : String) (response : Response)
    (model : String) (tokens : UInt64) : LocalCache :=
  let cache := cache.sweep clocks
  let room := makeRoom cache.config.capacity? (cache.entries.erase key)
  let entry := Entry.create clocks.wall key response model tokens cache.config.ttlDuration
  { cache with entries := room.push key entry }

/-- Removes a key and says whether there was an entry under it, expired or not. -/
def delete (cache : LocalCache) (key : String) : Bool × LocalCache :=
  ((cache.entries.find? key).isSome, { cache with entries := cache.entries.erase key })

/-- Removes all entries and forgets the counts. -/
def clear (cache : LocalCache) : LocalCache :=
  { cache with entries := .empty, hits := 0, misses := 0 }

/-- The statistics at an instant. -/
def stats (cache : LocalCache) (now : Instant) : Stats where
  backend := name
  totalEntries := cache.size
  activeEntries := some (cache.entries.countWhere fun entry => !entry.isExpiredAt now)
  maxSize := cache.config.maxSize
  hits := cache.hits
  misses := cache.misses
  sets := none
  hitRate := hitRatio cache.hits cache.misses
  ttl := cache.config.ttl
  keyPrefix := none

/-- The health report: this cache is always well. -/
def health (cache : LocalCache) : HealthReport :=
  { HealthReport.ofHealthy name with entries := some cache.size }

/-- The operations of this kind of cache. None of them fails. -/
def backend : Backend LocalCache where
  name := name
  get clocks key := modifyGet fun cache => cache.get clocks key
  set clocks key response model tokens := modify fun cache =>
    cache.set clocks key response model tokens
  delete _ key := modifyGet fun cache => cache.delete key
  clear _ := modify clear
  stats clocks := return (← getThe LocalCache).stats clocks.wall
  health _ := return (← getThe LocalCache).health

end LocalCache

end CompletionCache
