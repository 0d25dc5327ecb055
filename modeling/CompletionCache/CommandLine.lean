import CompletionCache.Eligibility
import CompletionCache.Fingerprint
import CompletionCache.Request.Body
import CompletionCache.Settings.Cache
import CompletionCache.Settings.Overrides
import CompletionCache.Settings.Yaml

/-!
# The command line

`CommandLine.run` answers an invocation with an exit code and what is written to the two outputs. It
sees the world only as files and variables. `CommandLine.paths` lists the files that an invocation
may look at.
-/

set_option autoImplicit false

namespace CompletionCache.CommandLine

/-- What an invocation can see: files by their paths, and variables by their names. -/
structure World where
  file : (path : String) → FileContent
  environment : (name : String) → Option String

/-- How an invocation ends. -/
structure Outcome where
  code : UInt32
  output : String
  errors : String
  deriving DecidableEq

/-! ## Texts -/

/-- The name of the program. -/
def program : String := "ai-cache-cli"

/-- The version of the program. -/
def version : String := "0.1.0"

/-- Lines, each with its end. -/
def lines (texts : List String) : String := String.join (texts.map (· ++ "\n"))

/-- How the program is used. -/
def usage : String := lines [
  program ++ " - response cache tooling",
  "",
  "USAGE:",
  "    " ++ program ++ " <COMMAND> [OPTIONS]",
  "",
  "COMMANDS:",
  "    key <request.json> [--config <path>]   Print the fingerprint and eligibility of a request",
  "    check <config.yaml>                    Validate a cache settings file",
  "    health [config.yaml]                   Probe the configured backend and print a JSON report",
  "    version                                Show version information",
  "    help                                   Show this help message",
  "",
  "ENVIRONMENT:",
  "    AI_CACHE_ENABLED, AI_CACHE_TTL, AI_CACHE_MAX_SIZE, AI_CACHE_STREAMING,",
  "    AI_CACHE_EXCLUDED_MODELS, AI_CACHE_BACKEND, AI_CACHE_REDIS_URL,",
  "    AI_CACHE_KEY_PREFIX                    Override settings from file or defaults",
  "    RUST_LOG                               Log filter (default: warn)"]

/-! ## Arguments -/

/-- Whether an argument is an option, which takes the argument behind it with it. -/
def isOption (argument : String) : Bool := argument.startsWith "--"

/-- The first argument that is no option and belongs to none. -/
def positional? : List String → Option String
  | [] => none
  | [argument] => if isOption argument then none else some argument
  | argument :: _ :: rest => if isOption argument then positional? rest else some argument

/-- The argument behind the first occurrence of an option. -/
def option? (name : String) : List String → Option String
  | [] => none
  | argument :: rest => if argument = name then rest.head? else option? name rest

/-- The option for a file of settings. -/
def configOption : String := "--config"

/-- The paths of the files that an invocation may look at. -/
def paths (arguments : List String) : List String :=
  (positional? (arguments.drop 1)).toList ++ (option? configOption (arguments.drop 1)).toList

/-! ## Failures -/

/-- Why a command failed. -/
inductive Failure where
  | usage (form : String)
  | unreadableFile (path : String) (fault : FileFault)
  | malformedDocument (path reason : String)
  | settingsFile (path : String) (error : Error)
  | checkedFile (path : String) (error : Error)
  | library (error : Error)
  deriving DecidableEq

/-- The words of a failure. -/
def Failure.message : Failure → String
  | usage form => "usage: " ++ program ++ " " ++ form
  | unreadableFile path fault => "reading " ++ path ++ ": " ++ fault.message
  | malformedDocument path reason => "parsing " ++ path ++ ": " ++ reason
  | settingsFile path error => "loading settings from " ++ path ++ ": " ++ error.chain
  | checkedFile path error => "checking " ++ path ++ ": " ++ error.chain
  | library error => error.chain

/-! ## Commands -/

/-- The settings in a file, if one is named, with the variables. -/
def loadSettings (world : World) (path : Option String) : Except Failure Settings := do
  let settings ← match path with
    | none => pure Settings.default
    | some path => (Settings.ofYamlFile (world.file path)).mapError (.settingsFile path)
  (settings.override world.environment).mapError .library

/-- Shows the fingerprint of the request in a file and whether it takes part in caching. -/
def showKey (world : World) (arguments : List String) : Except Failure Outcome := do
  let some path := positional? arguments
    | throw (.usage "key <request.json> [--config <path>]")
  let text ← (world.file path).text.mapError (.unreadableFile path)
  let body ← (Json.read text).mapError (.malformedDocument path)
  let request ← (Request.ofBody body.normalize).mapError fun fault => .library fault.error
  let settings ← loadSettings world (option? configOption arguments)
  return ⟨0, lines ["model:       " ++ request.model, "key:         " ++ request.fingerprint.hash,
    "eligibility: " ++ (settings.cache.eligibility request).name,
    "canonical:   " ++ request.canonicalText], ""⟩

/-- The word for a boolean. -/
def switchText (value : Bool) : String := if value then "true" else "false"

/-- Checks the settings in a file and shows the main ones. -/
def checkSettings (world : World) (arguments : List String) : Except Failure Outcome := do
  let some path := positional? arguments
    | throw (.usage "check <config.yaml>")
  let settings ← (Settings.ofYamlFile (world.file path)).mapError (.checkedFile path)
  let config := settings.cache
  let excluded := if config.excludedModels.names.isEmpty then []
    else ["  excluded_models: " ++ ", ".intercalate config.excludedModels.names]
  return ⟨0, lines ([path ++ ": OK", "  backend:         " ++ settings.backend.kind.name,
    "  enabled:         " ++ switchText config.enabled,
    "  ttl:             " ++ toString config.ttl.toNat ++ "s",
    "  max_size:        " ++ ((config.capacity?.map fun n => toString n).getD "unbounded"),
    "  cache_streaming: " ++ switchText config.cacheStreaming] ++ excluded), ""⟩

/-- Shows the health report of the cache that the settings describe. -/
def showHealth (world : World) (arguments : List String) : Except Failure Outcome := do
  let settings ← loadSettings world (positional? arguments)
  let cache ← (settings.build 0).mapError .library
  let report := cache.health ⟨0, 0⟩
  return ⟨if report.healthy then 0 else 2, report.toJson.indentedText ++ "\n", ""⟩

/-- The outcome of a command that may have failed. -/
def outcomeOf : Except Failure Outcome → Outcome
  | .ok outcome => outcome
  | .error failure => ⟨1, "", "Error: " ++ failure.message ++ "\n"⟩

/-- Answers an invocation. -/
def run (world : World) : (arguments : List String) → Outcome
  | [] => ⟨1, usage, ""⟩
  | command :: arguments =>
    if command = "key" then outcomeOf (showKey world arguments)
    else if command = "check" then outcomeOf (checkSettings world arguments)
    else if command = "health" then outcomeOf (showHealth world arguments)
    else if ["version", "--version", "-V"].contains command then
      ⟨0, lines [program ++ " " ++ version], ""⟩
    else if ["help", "--help", "-h"].contains command then ⟨0, usage, ""⟩
    else ⟨1, usage, lines ["Unknown command: " ++ command, ""]⟩

end CompletionCache.CommandLine
