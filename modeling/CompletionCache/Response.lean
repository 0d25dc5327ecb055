import CompletionCache.Json.RecordReader

/-!
# Completion responses

A response is a list of choices, the usage that the provider reports, if it does, and all further
members, kept sorted by name. Choices are documents that are not looked into.
-/

set_option autoImplicit false

namespace CompletionCache

open Json (Mismatch)

/-- How many tokens a completion took. -/
structure Usage where
  promptTokens : UInt64
  completionTokens : UInt64
  totalTokens : UInt64
  deriving DecidableEq

namespace Usage

/-- No tokens. -/
def zero : Usage := ⟨0, 0, 0⟩

/-- The usage with both counts and their sum. -/
def ofCounts (prompt completion : UInt64) : Usage := ⟨prompt, completion, prompt + completion⟩

/-- The fields of a usage, each zero when absent; other members are passed over. -/
def layout : Json.Layout where
  type := "Usage"
  fields := [Json.fieldOf "prompt_tokens" Json.readUInt64,
    Json.fieldOf "completion_tokens" Json.readUInt64, Json.fieldOf "total_tokens" Json.readUInt64]
  others := .ignored

/-- The usage that a document writes. -/
def ofJson (v : Json) : Except Mismatch Usage := do
  let record ← layout.record v
  let prompt ← record.field? "prompt_tokens" Json.readUInt64
  let completion ← record.field? "completion_tokens" Json.readUInt64
  let total ← record.field? "total_tokens" Json.readUInt64
  record.close
  return ⟨prompt.getD 0, completion.getD 0, total.getD 0⟩

/-- Reads the text of a usage. -/
def reader : Json.ValueReader := layout.reader []

/-- A usage as a document. -/
def toJson (usage : Usage) : Json :=
  .object [("prompt_tokens", .ofNat usage.promptTokens.toNat),
    ("completion_tokens", .ofNat usage.completionTokens.toNat),
    ("total_tokens", .ofNat usage.totalTokens.toNat)]

end Usage

/-- A response. -/
structure Response where
  choices : List Json
  usage : Option Usage
  extra : Members
  deriving DecidableEq

namespace Response

/-- A response with choices and nothing else. -/
def ofChoices (choices : List Json) : Response := ⟨choices, none, []⟩

/-- The response without choices. -/
def empty : Response := ofChoices []

/-- A response of one choice, in which the assistant says a text. -/
def ofText (content : String) : Response :=
  ofChoices [.object [("finish_reason", .string "stop"), ("index", .ofNat 0),
    ("message", .object [("content", .string content), ("role", .string "assistant")])]]

/-- The response with a usage in the place of its own. -/
def withUsage (response : Response) (usage : Usage) : Response :=
  { response with usage := some usage }

/-- The total that the provider reports, zero without a usage. -/
def totalTokens (response : Response) : UInt64 := (response.usage.map Usage.totalTokens).getD 0

/-- The text of the first choice, if it has one. -/
def firstContent? (response : Response) : Option String := do
  let choice ← response.choices.head?
  let message ← choice.member? "message"
  let content ← message.member? "content"
  content.string?

/-- The fields of a response; every other member is kept. -/
def layout : Json.Layout where
  type := "CompletionResponse"
  fields := [Json.fieldOf "choices" (Json.readList Json.readAny),
    Json.fieldOf "usage" (Json.readOption Usage.ofJson)]
  others := .collected

/-- The response that a document writes. -/
def ofJson (v : Json) : Except Mismatch Response := do
  let record ← layout.record v
  return {
    choices := (← record.field? "choices" (Json.readList Json.readAny)).getD []
    usage := (← record.field? "usage" (Json.readOption Usage.ofJson)).join
    extra := record.others }

/-- Reads the text of a response. -/
def reader : Json.ValueReader := layout.reader [("usage", Usage.reader)]

/-- A response as a document: the choices, the usage if there is one, then the further members. -/
def toJson (response : Response) : Json :=
  .object (("choices", .array response.choices) ::
    Json.optionalMember "usage" Usage.toJson response.usage ++ response.extra)

end Response

end CompletionCache
