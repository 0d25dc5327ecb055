import CompletionCache.Json.Record

/-!
# Chat messages

A message has a role, a content that may be absent, and any further members, which are kept sorted
by name. The content is a text or a list of parts, and parts are documents that are not looked into.
-/

set_option autoImplicit false

namespace CompletionCache

open Json (Mismatch)

/-- Who speaks. -/
inductive Role where
  | system
  | user
  | assistant
  | tool
  deriving DecidableEq

namespace Role

/-- The name of a role. -/
def name : Role → String
  | system => "system"
  | user => "user"
  | assistant => "assistant"
  | tool => "tool"

/-- All roles, in the order in which messages name them. -/
def all : List Role := [system, user, assistant, tool]

/-- The role with a name. -/
def ofName (name : String) : Except Mismatch Role :=
  match all.find? (·.name == name) with
  | some role => .ok role
  | none => .error (.unknownVariant name (all.map (·.name)))

/-- The role that a document writes: its name, or an object whose one member has that name and the
value null. -/
def ofJson : Json → Except Mismatch Role
  | .string name => ofName name
  | .object [(name, value)] => do
    let role ← ofName name
    match value with
    | .null => return role
    | other => throw (.invalidType other.found "unit")
  | .object _ => .error (.invalidValue .map "map with a single key")
  | other => .error (.invalidType other.found "string or map")

/-- A role as a document. -/
def toJson (role : Role) : Json := .string role.name

end Role

/-- What a message says. -/
inductive Content where
  | text (value : String)
  | parts (items : List Json)
  deriving DecidableEq

namespace Content

/-- The content that a document writes. -/
def ofJson : Json → Except Mismatch Content
  | .string value => .ok (text value)
  | .array items => .ok (parts (Json.normalizeItems items))
  | _ => .error (.noVariant "MessageContent")

/-- A content as a document. -/
def toJson : Content → Json
  | text value => .string value
  | parts items => .array items

/-- The text of a content that is one text. -/
def text? : Content → Option String
  | text value => some value
  | parts _ => none

end Content

/-- A chat message. -/
structure Message where
  role : Role
  content : Option Content
  extra : Members
  deriving DecidableEq

namespace Message

/-- A message with a content and no further members. -/
def ofContent (role : Role) (content : Content) : Message := ⟨role, some content, []⟩

/-- A message with a text and no further members. -/
def ofText (role : Role) (text : String) : Message := ofContent role (.text text)

/-- Adds a further member, in the place of one with its name. -/
def withExtra (message : Message) (name : String) (value : Json) : Message :=
  { message with extra := Json.insertMember name value message.extra }

/-- The text of a message whose content is one text. -/
def text? (message : Message) : Option String := message.content.bind Content.text?

/-- The fields of a message; every other member is kept. -/
def layout : Json.Layout where
  type := "Message"
  fields := [Json.fieldOf "role" Role.ofJson,
    Json.fieldOf "content" (Json.readOption Content.ofJson)]
  others := .collected

/-- The message that a document writes. -/
def ofJson (v : Json) : Except Mismatch Message := do
  let record ← layout.record v
  return {
    role := ← record.field "role" Role.ofJson
    content := (← record.field? "content" (Json.readOption Content.ofJson)).join
    extra := record.others }

/-- A message as a document: the fields, an absent content as null, then the further members. -/
def toJson (message : Message) : Json :=
  .object (("role", message.role.toJson) ::
    ("content", Json.ofOption Content.toJson message.content) :: message.extra)

end Message

end CompletionCache
