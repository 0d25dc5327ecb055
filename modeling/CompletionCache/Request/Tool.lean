import CompletionCache.Json.Record

/-!
# Tools offered to a model

A tool has a type and a function. A function has a name, may have a description and a document that
describes its parameters, and keeps any further members sorted by name.
-/

set_option autoImplicit false

namespace CompletionCache

open Json (Mismatch)

/-- A function that a model may call. -/
structure Function where
  name : String
  description : Option String
  parameters : Option Json
  extra : Members
  deriving DecidableEq

namespace Function

/-- The fields of a function; every other member is kept. -/
def layout : Json.Layout where
  type := "FunctionDefinition"
  fields := [Json.fieldOf "name" Json.readText,
    Json.fieldOf "description" (Json.readOption Json.readText),
    Json.fieldOf "parameters" (Json.readOption Json.readAny)]
  others := .collected

/-- The function that a document writes. -/
def ofJson (v : Json) : Except Mismatch Function := do
  let record ← layout.record v
  return {
    name := ← record.field "name" Json.readText
    description := (← record.field? "description" (Json.readOption Json.readText)).join
    parameters := (← record.field? "parameters" (Json.readOption Json.readAny)).join
    extra := record.others }

/-- A function as a document: the fields that are present, then the further members. -/
def toJson (function : Function) : Json :=
  .object (("name", .string function.name) ::
    Json.optionalMember "description" Json.string function.description ++
    Json.optionalMember "parameters" id function.parameters ++ function.extra)

end Function

/-- A tool. -/
structure Tool where
  type : String
  function : Function
  deriving DecidableEq

namespace Tool

/-- The type of a tool that is a function. -/
def functionType : String := "function"

/-- A tool that is a function. -/
def ofFunction (function : Function) : Tool := ⟨functionType, function⟩

/-- The fields of a tool; other members are passed over. -/
def layout : Json.Layout where
  type := "ToolDefinition"
  fields := [Json.fieldOf "type" Json.readText, Json.fieldOf "function" Function.ofJson]
  others := .ignored

/-- The tool that a document writes. -/
def ofJson (v : Json) : Except Mismatch Tool := do
  let record ← layout.record v
  let type ← record.field "type" Json.readText
  let function ← record.field "function" Function.ofJson
  record.close
  return ⟨type, function⟩

/-- A tool as a document. -/
def toJson (tool : Tool) : Json :=
  .object [("type", .string tool.type), ("function", tool.function.toJson)]

end Tool

end CompletionCache
