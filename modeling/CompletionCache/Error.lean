import CompletionCache.File
import CompletionCache.Json.Mismatch

/-!
# Errors

An `Error` is a failure of a kind with a message and a context, a failure to read a file, a document
of the wrong shape, or a settings text that cannot be read. `Error.message` is the whole text that
is shown for it. Where the library itself finds a fault it has a type of causes for it, each with
its `Error`.
-/

set_option autoImplicit false

namespace CompletionCache

/-- Where an error arose and what it was about. -/
structure ErrorContext where
  fieldPath : Option String
  details : Option String
  source : Option String
  deriving DecidableEq

namespace ErrorContext

/-- A context that says nothing. -/
def empty : ErrorContext := ⟨none, none, none⟩

/-- The context as the tail of a message: the parts it has, in brackets. -/
def message (context : ErrorContext) : String :=
  let part (label : String) (value : Option String) : List String :=
    (value.map fun text => label ++ ": " ++ text).toList
  let parts := part "field" context.fieldPath ++ part "details" context.details ++
    part "source" context.source
  if parts.isEmpty then "" else " (" ++ ", ".intercalate parts ++ ")"

end ErrorContext

/-- Who has to act on a failure: the owner of the settings, the sender of the request, or whoever
runs the cache. -/
inductive FailureKind where
  | configuration
  | validation
  | runtime
  deriving DecidableEq

/-- The words in front of the message of a failure. -/
def FailureKind.label : FailureKind → String
  | configuration => "Configuration error: "
  | validation => "Validation error: "
  | runtime => "Runtime error: "

/-- An error of the library. -/
inductive Error where
  | failure (kind : FailureKind) (message : String) (context : ErrorContext)
  | file (fault : FileFault)
  | serialization (mismatch : Json.Mismatch)
  | yaml
  deriving DecidableEq

namespace Error

/-- The text shown for an error. -/
def message : Error → String
  | failure kind message context => kind.label ++ message ++ context.message
  | file fault => "I/O error: " ++ fault.message
  | serialization mismatch => "Serialization error: " ++ mismatch.message
  | yaml => "YAML error"

/-- The error under an error, if it was passed on from below. -/
def cause? : Error → Option String
  | file fault => some fault.message
  | serialization mismatch => some mismatch.message
  | _ => none

/-- The text shown for an error together with the one under it. -/
def chain (error : Error) : String := ": ".intercalate (error.message :: error.cause?.toList)

/-- Whether the settings are at fault. -/
def isConfiguration : Error → Bool
  | failure .configuration _ _ => true
  | _ => false

/-- The context, for the errors that have one. -/
def context? : Error → Option ErrorContext
  | failure _ _ context => some context
  | _ => none

end Error

/-- The result of an operation of the library. -/
abbrev Result := Except Error

end CompletionCache
