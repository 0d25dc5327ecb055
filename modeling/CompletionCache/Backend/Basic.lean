import CompletionCache.Entry

/-!
# What every cache offers

A `Backend` keeps entries under keys in a state of its own type. Its operations are told the time by
two clocks: the wall clock decides what has expired, the monotonic clock paces housekeeping. An
operation may fail with an `Error`; the state it leaves is kept either way.
-/

set_option autoImplicit false

namespace CompletionCache

/-- The readings of the two clocks. -/
structure Clocks where
  wall : Instant
  mono : Instant
  deriving DecidableEq

/-- An operation that may fail, on a state. -/
abbrev Action (σ : Type) := ExceptT Error (StateM σ)

/-! ## Statistics -/

/-- What a cache reports about its use. -/
structure Stats where
  backend : String
  totalEntries : Nat
  activeEntries : Option Nat
  maxSize : Option UInt64
  hits : Nat
  misses : Nat
  sets : Option Nat
  hitRate : Binary64
  ttl : UInt64
  keyPrefix : Option String
  deriving DecidableEq

/-- The share of hits among all lookups, zero without a lookup. -/
def hitRatio (hits misses : Nat) : Binary64 :=
  if hits + misses = 0 then .zero else (Binary64.ofNat hits).div (Binary64.ofNat (hits + misses))

namespace Stats

/-- The share of hits in percent. -/
def hitRatePercent (stats : Stats) : Binary64 := stats.hitRate.scale 100

/-- Statistics as a document. -/
def toJson (stats : Stats) : Json :=
  .object ([("backend", .string stats.backend), ("total_entries", .ofNat stats.totalEntries)] ++
    Json.optionalMember "active_entries" Json.ofNat stats.activeEntries ++
    [("max_size", Json.ofOption (fun n => .ofNat n.toNat) stats.maxSize),
      ("hits", .ofNat stats.hits), ("misses", .ofNat stats.misses)] ++
    Json.optionalMember "sets" Json.ofNat stats.sets ++
    [("hit_rate", .ofBinary64 stats.hitRate), ("ttl", .ofNat stats.ttl.toNat)] ++
    Json.optionalMember "key_prefix" Json.string stats.keyPrefix)

end Stats

/-! ## Health -/

/-- What a cache reports about its health. -/
structure HealthReport where
  backend : String
  healthy : Bool
  latencyMillis : Option Nat
  entries : Option Nat
  store : Option String
  keyPrefix : Option String
  error : Option String
  deriving DecidableEq

namespace HealthReport

/-- The report of a cache that is well. -/
def ofHealthy (backend : String) : HealthReport := ⟨backend, true, none, none, none, none, none⟩

/-- The report of a cache that is not. -/
def ofUnhealthy (backend error : String) : HealthReport :=
  { ofHealthy backend with healthy := false, error := some error }

/-- A report as a document: the parts it has. -/
def toJson (report : HealthReport) : Json :=
  .object ([("backend", .string report.backend), ("healthy", .bool report.healthy)] ++
    Json.optionalMember "latency_ms" Json.ofNat report.latencyMillis ++
    Json.optionalMember "entries" Json.ofNat report.entries ++
    Json.optionalMember "store" Json.string report.store ++
    Json.optionalMember "key_prefix" Json.string report.keyPrefix ++
    Json.optionalMember "error" Json.string report.error)

end HealthReport

/-! ## Backends -/

/-- The operations of a cache on its state. -/
structure Backend (σ : Type) where
  name : String
  get : Clocks → (key : String) → Action σ (Option Entry)
  set : Clocks → (key : String) → Response → (model : String) → (tokens : UInt64) → Action σ Unit
  delete : Clocks → (key : String) → Action σ Bool
  clear : Clocks → Action σ Unit
  stats : Clocks → Action σ Stats
  health : Clocks → StateM σ HealthReport

end CompletionCache
