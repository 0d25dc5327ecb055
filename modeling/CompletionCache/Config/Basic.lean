import CompletionCache.Config.Names
import CompletionCache.Error
import CompletionCache.Json.Record
import CompletionCache.Time

/-!
# What is cached and for how long

A `Config` holds the lifetime of entries, the capacity, and the rules that keep requests out of the
cache. `Config.fault?` names the first setting out of range; a config without one is valid.
-/

set_option autoImplicit false

namespace CompletionCache

open Json (Mismatch)

/-! ## The config -/

/-- What is cached and for how long. A missing capacity means an unbounded cache. -/
structure Config where
  ttl : UInt64
  maxSize : Option UInt64
  similarityThreshold : Binary64
  enabled : Bool
  cacheStreaming : Bool
  excludedModels : NameSet
  deriving DecidableEq

namespace Config

/-- The lifetime of entries in seconds, unless it is set. -/
def defaultTtl : UInt64 := 3600

/-- The longest lifetime in seconds, ten years of 365 days. -/
def maxTtl : UInt64 := 315360000

/-- The config without any setting. -/
def default : Config := ⟨defaultTtl, none, .one, true, false, .empty⟩

/-- The lifetime of entries. -/
def ttlDuration (config : Config) : Duration := Duration.ofSeconds config.ttl.toNat

/-- The capacity as a number. -/
def capacity? (config : Config) : Option Nat := config.maxSize.map UInt64.toNat

/-- Whether a model is kept out. -/
def isExcluded (config : Config) (model : String) : Bool := decide (model ∈ config.excludedModels)

/-- The config with one more model kept out. -/
def exclude (config : Config) (model : String) : Config :=
  { config with excludedModels := config.excludedModels.insert model }

/-! ## Faults -/

/-- A setting out of range. -/
inductive Fault where
  | ttlZero
  | ttlTooLarge (ttl : UInt64)
  | maxSizeZero
  | thresholdOutOfRange (threshold : Binary64)
  deriving DecidableEq

/-- The error that a fault is shown as. -/
def Fault.error : Fault → Error
  | ttlZero =>
    .failure .configuration "ttl must be greater than zero"
      ⟨some "cache.ttl", none, some "cache_config"⟩
  | ttlTooLarge ttl =>
    .failure .configuration "ttl is too large"
      ⟨some "cache.ttl",
        some (toString ttl.toNat ++ " exceeds " ++ toString maxTtl.toNat ++ " seconds"),
        some "cache_config"⟩
  | maxSizeZero =>
    .failure .configuration "max_size must be a positive integer (omit it for an unbounded cache)"
      ⟨some "cache.max_size", none, some "cache_config"⟩
  | thresholdOutOfRange threshold =>
    .failure .configuration "similarity_threshold must be within [0, 1]"
      ⟨some "cache.similarity_threshold", some ("got " ++ threshold.messageText),
        some "cache_config"⟩

/-- The first setting out of range, if there is one. -/
def fault? (config : Config) : Option Fault :=
  if config.ttl = 0 then some .ttlZero
  else if maxTtl < config.ttl then some (.ttlTooLarge config.ttl)
  else if config.maxSize = some 0 then some .maxSizeZero
  else if config.similarityThreshold.isInUnitInterval then none
  else some (.thresholdOutOfRange config.similarityThreshold)

/-- Refuses a config with a setting out of range. -/
def validate (config : Config) : Result Unit :=
  match config.fault? with
  | none => .ok ()
  | some fault => .error fault.error

/-! ## Documents -/

/-- The fields of a config; any other member is a fault. -/
def layout : Json.Layout where
  type := "CacheConfig"
  fields := [Json.fieldOf "ttl" Json.readUInt64,
    Json.fieldOf "max_size" (Json.readOption Json.readSize),
    Json.fieldOf "similarity_threshold" Json.readBinary64,
    Json.fieldOf "enabled" Json.readBool,
    Json.fieldOf "cache_streaming" Json.readBool,
    Json.fieldOf "excluded_models" (Json.readList Json.readText)]
  others := .refused

/-- The config that a document writes; a missing field has its default. -/
def ofJson (v : Json) : Except Mismatch Config := do
  let record ← layout.record v
  let ttl ← record.field? "ttl" Json.readUInt64
  let maxSize ← record.field? "max_size" (Json.readOption Json.readSize)
  let threshold ← record.field? "similarity_threshold" Json.readBinary64
  let enabled ← record.field? "enabled" Json.readBool
  let cacheStreaming ← record.field? "cache_streaming" Json.readBool
  let excluded ← record.field? "excluded_models" (Json.readList Json.readText)
  record.close
  return ⟨ttl.getD default.ttl, maxSize.join, threshold.getD default.similarityThreshold,
    enabled.getD default.enabled, cacheStreaming.getD default.cacheStreaming,
    .ofList (excluded.getD [])⟩

/-- A config as a document. -/
def toJson (config : Config) : Json :=
  .object [("ttl", .ofNat config.ttl.toNat),
    ("max_size", Json.ofOption (fun n => .ofNat n.toNat) config.maxSize),
    ("similarity_threshold", .ofBinary64 config.similarityThreshold),
    ("enabled", .bool config.enabled),
    ("cache_streaming", .bool config.cacheStreaming),
    ("excluded_models", .array (config.excludedModels.names.map .string))]

end Config

end CompletionCache
