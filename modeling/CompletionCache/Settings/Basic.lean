import CompletionCache.Config.Backend

/-!
# Settings

`Settings` are a config and a choice of backend. Both may be absent from a document, and no other
member may be there.
-/

set_option autoImplicit false

namespace CompletionCache

open Json (Mismatch)

/-- A config and a choice of backend. -/
structure Settings where
  cache : Config
  backend : BackendConfig
  deriving DecidableEq

namespace Settings

/-- The settings of a document without members. -/
def default : Settings := ⟨Config.default, BackendConfig.default⟩

/-- Refuses settings out of range; the config is looked at first. -/
def validate (settings : Settings) : Result Unit := do
  settings.cache.validate
  settings.backend.validate

/-- The fields of settings; any other member is a fault. -/
def layout : Json.Layout where
  type := "CacheSettings"
  fields := [Json.fieldOf "cache" Config.ofJson, Json.fieldOf "backend" BackendConfig.ofJson]
  others := .refused

/-- The settings that a document writes. -/
def ofJson (v : Json) : Except Mismatch Settings := do
  let record ← layout.record v
  let cache ← record.field? "cache" Config.ofJson
  let backend ← record.field? "backend" BackendConfig.ofJson
  record.close
  return ⟨cache.getD Config.default, backend.getD BackendConfig.default⟩

/-- Settings as a document. -/
def toJson (settings : Settings) : Json :=
  .object [("cache", settings.cache.toJson), ("backend", settings.backend.toJson)]

end Settings

end CompletionCache
