import CompletionCache.Config.Basic
import CompletionCache.Config.Store

/-!
# Where entries are kept

A `BackendConfig` says whether entries are kept in process or in a shared store, with the settings
of the choice. Its document names the choice in the member `kind`, beside the fields of the choice;
as a list it has the kind in front.
-/

set_option autoImplicit false

namespace CompletionCache

open Json (Mismatch)

/-- Where entries are kept. -/
inductive BackendConfig where
  | inProcess (cleanupSeconds : UInt64)
  | shared (store : StoreConfig)
  deriving DecidableEq

/-- The two choices. -/
inductive BackendKind where
  | inProcess
  | shared
  deriving DecidableEq

/-- The name of a choice. -/
def BackendKind.name : BackendKind → String
  | inProcess => "local"
  | shared => "distributed"

namespace BackendConfig

/-- The cleanup interval in seconds, unless it is set. -/
def defaultCleanupSeconds : UInt64 := 60

/-- The choice without any setting. -/
def default : BackendConfig := inProcess defaultCleanupSeconds

/-- Which choice was made. -/
def kind : BackendConfig → BackendKind
  | inProcess _ => .inProcess
  | shared _ => .shared

/-- Why a choice cannot be used. -/
inductive Fault where
  | cleanupZero
  | store (fault : StoreConfig.Fault)
  deriving DecidableEq

/-- The error that a fault is shown as. -/
def Fault.error : Fault → Error
  | cleanupZero =>
    .failure .configuration "cleanup interval must be greater than zero"
      ⟨some "backend.cleanup_interval_secs", none, some "cache_config"⟩
  | store fault => fault.error

/-- Refuses a choice that cannot be used. -/
def validate : BackendConfig → Result Unit
  | inProcess cleanupSeconds =>
    if cleanupSeconds = 0 then .error Fault.cleanupZero.error else .ok ()
  | shared store => store.validate

/-! ## Documents -/

/-- The name of the member that holds the kind. -/
def kindName : String := "kind"

/-- The kind that a document names. -/
def readKind : Json → Except Mismatch BackendKind
  | .string name =>
    if name = BackendKind.inProcess.name then .ok .inProcess
    else if name = BackendKind.shared.name then .ok .shared
    else .error (.unknownVariant name [BackendKind.inProcess.name, BackendKind.shared.name])
  | other => .error (.invalidType other.found "variant identifier")

/-- The fields beside the kind of entries kept in process; other members are passed over. -/
def inProcessLayout : Json.Layout where
  type := "BackendConfig"
  fields := [Json.fieldOf "cleanup_interval_secs" Json.readUInt64]
  others := .ignored

/-- Refuses a list with more items than the record has fields. -/
def closeList (record : Json.Record) : Except Mismatch Unit :=
  let count := record.layout.fields.length
  match record.listed with
  | none => .ok ()
  | some length =>
    if count < length then
      .error (.invalidLength length
        (toString count ++ (if count = 1 then " element" else " elements") ++ " in sequence"))
    else .ok ()

/-- The settings of a choice. -/
def readChoice (kind : BackendKind) (v : Json) : Except Mismatch BackendConfig :=
  match kind with
  | .inProcess => do
    let record ← inProcessLayout.record v
    let seconds ← record.field? "cleanup_interval_secs" Json.readUInt64
    closeList record
    return inProcess (seconds.getD defaultCleanupSeconds)
  | .shared => do
    let record ← StoreConfig.layout.record v
    let store ← StoreConfig.ofRecord record
    closeList record
    return shared store

/-- The kind among some members, which has to be there once. -/
def findKind : Members → Except Mismatch (Option BackendKind)
  | [] => .ok none
  | (name, value) :: rest => do
    if name = kindName then
      let kind ← readKind value
      if (← findKind rest).isSome then throw (.duplicateField kindName)
      return some kind
    else findKind rest

/-- The choice that a document writes. -/
def ofJson : Json → Except Mismatch BackendConfig
  | .object members => do
    match ← findKind members with
    | some kind => readChoice kind (.object (members.filter fun member => member.1 ≠ kindName))
    | none => throw (.missingField kindName)
  | .array [] => .error (.missingField kindName)
  | .array (first :: rest) => do readChoice (← readKind first) (.array rest)
  | other => .error (.invalidType other.found "internally tagged enum BackendConfig")

/-- A choice as a document. -/
def toJson (backend : BackendConfig) : Json :=
  .object ((kindName, .string backend.kind.name) ::
    match backend with
    | inProcess cleanupSeconds => [("cleanup_interval_secs", .ofNat cleanupSeconds.toNat)]
    | shared store => store.members)

end BackendConfig

end CompletionCache
