import CompletionCache.Blank
import CompletionCache.Positional
import CompletionCache.Settings.Basic

/-!
# Settings from variables

Variables override settings one by one. A variable that selects another backend starts it from its
defaults, and an address and a prefix apply to whatever shared store is then chosen. The settings
that result are always valid.
-/

set_option autoImplicit false

namespace CompletionCache.Settings

/-- What is wrong with a variable. -/
inductive OverrideFault where
  /-- The variable must be a boolean. -/
  | notBoolean (name got : String)
  /-- The variable must be a number. -/
  | notNumber (name got : String) (fault : Positional.Fault)
  /-- The variable selects a backend that does not exist. -/
  | unknownBackend (got : String)
  /-- A shared store is selected, and no variable has its address. -/
  | missingUrl
  deriving DecidableEq

/-- The names of the variables. -/
def enabledName : String := "AI_CACHE_ENABLED"

@[inherit_doc enabledName]
def ttlName : String := "AI_CACHE_TTL"

@[inherit_doc enabledName]
def maxSizeName : String := "AI_CACHE_MAX_SIZE"

@[inherit_doc enabledName]
def streamingName : String := "AI_CACHE_STREAMING"

@[inherit_doc enabledName]
def excludedName : String := "AI_CACHE_EXCLUDED_MODELS"

@[inherit_doc enabledName]
def backendName : String := "AI_CACHE_BACKEND"

@[inherit_doc enabledName]
def urlName : String := "AI_CACHE_REDIS_URL"

@[inherit_doc enabledName]
def keyPrefixName : String := "AI_CACHE_KEY_PREFIX"

/-- The names of all variables that override settings. -/
def variableNames : List String :=
  [enabledName, ttlName, maxSizeName, streamingName, excludedName, backendName, urlName,
    keyPrefixName]

/-- The error that a fault is shown as. -/
def OverrideFault.error : OverrideFault → Error
  | notBoolean name got =>
    .failure .configuration "expected a boolean"
      ⟨some name, some ("got `" ++ got ++ "`"), some "cache_config"⟩
  | notNumber name got fault =>
    .failure .configuration "expected a non-negative integer"
      ⟨some name, some ("`" ++ got ++ "`: " ++ fault.message), some "cache_config"⟩
  | unknownBackend got =>
    .failure .configuration "unknown cache backend"
      ⟨some backendName, some ("`" ++ got ++ "` (expected local or distributed)"),
        some "cache_config"⟩
  | missingUrl =>
    .failure .configuration "distributed backend selected but no store url given"
      ⟨some urlName, none, some "cache_config"⟩

/-- The text of a variable without white space at its ends. -/
def trimmed (text : String) : String := String.ofList (Blank.trim text.toList)

/-- The boolean that a variable writes in one of four words for each value, in any case. -/
def readSwitch (name text : String) : Except OverrideFault Bool :=
  let word := String.ofList ((Blank.trim text.toList).map Char.toLower)
  if ["1", "true", "yes", "on"].contains word then .ok true
  else if ["0", "false", "no", "off"].contains word then .ok false
  else .error (.notBoolean name word)

/-- The number that a variable writes. -/
def readCount (name text : String) : Except OverrideFault UInt64 :=
  (Positional.readUInt64 (Blank.trim text.toList)).mapError (.notNumber name text)

/-- The names that a variable lists between commas; empty ones do not count. -/
def readNames (text : String) : NameSet :=
  .ofList (((Host.splitOn ',' text.toList).map Blank.trim |>.filter (!·.isEmpty)).map String.ofList)

/-- The config with the variables that concern it. -/
def overrideConfig (lookup : String → Option String) (config : Config) :
    Except OverrideFault Config := do
  let enabled ← (lookup enabledName).mapM (readSwitch enabledName)
  let ttl ← (lookup ttlName).mapM (readCount ttlName)
  let maxSize ← (lookup maxSizeName).mapM (readCount maxSizeName)
  let streaming ← (lookup streamingName).mapM (readSwitch streamingName)
  return { config with
    enabled := enabled.getD config.enabled
    ttl := ttl.getD config.ttl
    maxSize := maxSize.or config.maxSize
    cacheStreaming := streaming.getD config.cacheStreaming
    excludedModels := ((lookup excludedName).map readNames).getD config.excludedModels }

/-- The backend that the variables select: the present one if it is of that kind, else one with
defaults. -/
def selectBackend (lookup : String → Option String) (backend : BackendConfig) :
    Except OverrideFault BackendConfig :=
  match (lookup backendName).map trimmed with
  | none => .ok backend
  | some name =>
    if name = BackendKind.inProcess.name then
      .ok (if backend.kind = .inProcess then backend else BackendConfig.default)
    else if name = BackendKind.shared.name then
      if backend.kind = .shared then .ok backend
      else
        match lookup urlName with
        | some url => .ok (.shared (StoreConfig.ofUrl url))
        | none => .error .missingUrl
    else .error (.unknownBackend name)

/-- The address and the prefix that the variables set for a shared store. -/
def overrideStore (lookup : String → Option String) : BackendConfig → BackendConfig
  | .inProcess cleanupSeconds => .inProcess cleanupSeconds
  | .shared store =>
    .shared { store with
      url := (lookup urlName).getD store.url
      keyPrefix := (lookup keyPrefixName).getD store.keyPrefix }

/-- The settings with the variables that are set, if they are valid then. -/
def override (settings : Settings) (lookup : String → Option String) : Result Settings := do
  let cache ← (overrideConfig lookup settings.cache).mapError OverrideFault.error
  let backend ← (selectBackend lookup settings.backend).mapError OverrideFault.error
  let settings : Settings := ⟨cache, overrideStore lookup backend⟩
  settings.validate
  return settings

end CompletionCache.Settings
