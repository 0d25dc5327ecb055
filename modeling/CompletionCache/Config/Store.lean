import CompletionCache.Error
import CompletionCache.Json.Record
import CompletionCache.Store.Endpoint
import CompletionCache.Time

/-!
# Settings of a shared store

A `StoreConfig` holds the address of the store, the text in front of every key, and how long a
connection may take. `StoreConfig.validate` looks at the form of the address and the timeout,
`StoreConfig.endpoint` also reads where the address leads. `StoreConfig.redactedUrl` is the address
as reports show it, without its password.
-/

set_option autoImplicit false

namespace CompletionCache

open Json (Mismatch)

/-- How a shared store is reached. -/
structure StoreConfig where
  url : String
  keyPrefix : String
  connectTimeoutMillis : UInt64
  deriving DecidableEq

namespace StoreConfig

/-- The text in front of every key, unless it is set. -/
def defaultKeyPrefix : String := "cache:"

/-- How many milliseconds a connection may take, unless it is set. -/
def defaultConnectTimeoutMillis : UInt64 := 2000

/-- The settings of a store of which only the address is known. -/
def ofUrl (url : String) : StoreConfig := ⟨url, defaultKeyPrefix, defaultConnectTimeoutMillis⟩

/-- The settings with a timeout in whole milliseconds, at most as many as fit 64 bits. -/
def withConnectTimeout (store : StoreConfig) (timeout : Duration) : StoreConfig :=
  { store with connectTimeoutMillis := .ofNat (min (Duration.toMillis timeout) 0xFFFFFFFFFFFFFFFF) }

/-- How long a connection may take. -/
def connectTimeout (store : StoreConfig) : Duration :=
  Duration.ofMillis store.connectTimeoutMillis.toNat

/-- The address in its parts. -/
def parsedUrl (store : StoreConfig) : Except UrlFault Url := Url.parse store.url.toList

/-! ## Faults -/

/-- Why a store cannot be used. -/
inductive Fault where
  /-- The address cannot be read. -/
  | invalidUrl (fault : UrlFault)
  /-- The address has a scheme that no store has. -/
  | unsupportedScheme (scheme : List Char)
  /-- Connections have no time. -/
  | timeoutZero
  /-- The address does not lead to a store. -/
  | noEndpoint (fault : EndpointFault)
  deriving DecidableEq

/-- The error that a fault is shown as. -/
def Fault.error : Fault → Error
  | invalidUrl fault =>
    .failure .configuration "invalid store url"
      ⟨some "backend.url", some fault.message, some "cache_config"⟩
  | unsupportedScheme scheme =>
    .failure .configuration "unsupported store url scheme"
      ⟨some "backend.url", some ("scheme `" ++ String.ofList scheme ++ "`"), some "cache_config"⟩
  | timeoutZero =>
    .failure .configuration "connect timeout must be greater than zero"
      ⟨some "backend.connect_timeout_ms", none, some "cache_config"⟩
  | noEndpoint fault =>
    .failure .configuration "invalid store url"
      ⟨some "backend.url", some (fault.message ++ "- InvalidClientConfig"),
        some "distributed_cache"⟩

/-- The address of settings that are in order: it can be read, its scheme is one of a store, and
connections have time. -/
def check (store : StoreConfig) : Except Fault Url := do
  let url ← store.parsedUrl.mapError .invalidUrl
  if !Endpoint.schemes.contains url.scheme then throw (.unsupportedScheme url.scheme)
  if store.connectTimeoutMillis = 0 then throw .timeoutZero
  return url

/-- Refuses settings that are not in order. -/
def validate (store : StoreConfig) : Result Unit :=
  match store.check with
  | .ok _ => .ok ()
  | .error fault => .error fault.error

/-- Where the store listens, for settings that are in order. -/
def endpoint (store : StoreConfig) : Except Fault Endpoint := do
  let url ← store.check
  (Endpoint.ofUrl url).mapError .noEndpoint

/-- What stands for a password in reports. -/
def hiddenPassword : List Char := ['*', '*', '*']

/-- The address as reports show it: a password gives way to stars. -/
def redactedUrl (store : StoreConfig) : String :=
  match store.parsedUrl with
  | .ok url => String.ofList (url.hidePassword hiddenPassword).text
  | .error _ => "<invalid url>"

/-! ## Documents -/

/-- The fields of the settings; other members are passed over. -/
def layout : Json.Layout where
  type := "DistributedConfig"
  fields := [Json.fieldOf "url" Json.readText, Json.fieldOf "key_prefix" Json.readText,
    Json.fieldOf "connect_timeout_ms" Json.readUInt64]
  others := .ignored

/-- The settings that a record holds; the prefix and the timeout have defaults. -/
def ofRecord (record : Json.Record) : Except Mismatch StoreConfig := do
  let url ← record.field "url" Json.readText
  let keyPrefix ← record.field? "key_prefix" Json.readText
  let timeout ← record.field? "connect_timeout_ms" Json.readUInt64
  return ⟨url, keyPrefix.getD defaultKeyPrefix, timeout.getD defaultConnectTimeoutMillis⟩

/-- The settings that a document writes. -/
def ofJson (v : Json) : Except Mismatch StoreConfig := do
  let record ← layout.record v
  let store ← ofRecord record
  record.close
  return store

/-- The fields of the settings as members. -/
def members (store : StoreConfig) : Members :=
  [("url", .string store.url), ("key_prefix", .string store.keyPrefix),
    ("connect_timeout_ms", .ofNat store.connectTimeoutMillis.toNat)]

/-- The settings as a document. -/
def toJson (store : StoreConfig) : Json := .object store.members

end StoreConfig

end CompletionCache
