import CompletionCache.Json.Mismatch

/-!
# Records from documents

A record is written as an object of its fields, or, unless it takes in further members, as a list of
its fields in the order of its layout. `Layout.record` checks the members one after another, so that
the first fault in the order of the text is the one reported, and only then is a missing field a
fault.
-/

set_option autoImplicit false

namespace CompletionCache.Json

/-! ## Scalars and lists -/

/-- A text. -/
def readText : Json → Except Mismatch String
  | string value => .ok value
  | other => .error (.invalidType other.found "a string")

/-- A boolean. -/
def readBool : Json → Except Mismatch Bool
  | bool value => .ok value
  | other => .error (.invalidType other.found "a boolean")

/-- A binary64 number, from either kind of number. -/
def readBinary64 : Json → Except Mismatch Binary64
  | number value => .ok value.toBinary64
  | other => .error (.invalidType other.found "f64")

/-- A whole number below `bound`; `expected` names its type. -/
def readBelow (bound : Nat) (expected : String) : Json → Except Mismatch Nat
  | number (.integer value) =>
    if 0 ≤ value ∧ value < bound then .ok value.toNat
    else .error (.invalidValue (.integer value) expected)
  | other => .error (.invalidType other.found expected)

/-- A whole number of 64 bits. -/
def readUInt64 (v : Json) : Except Mismatch UInt64 :=
  return .ofNat (← readBelow UInt64.size "u64" v)

/-- A whole number of 32 bits. -/
def readUInt32 (v : Json) : Except Mismatch UInt32 :=
  return .ofNat (← readBelow UInt32.size "u32" v)

/-- A count of things in memory, which is a whole number of 64 bits. -/
def readSize (v : Json) : Except Mismatch UInt64 :=
  return .ofNat (← readBelow UInt64.size "usize" v)

/-- A value that may be null. -/
def readOption {α : Type} (read : Json → Except Mismatch α) : Json → Except Mismatch (Option α)
  | null => .ok none
  | value => some <$> read value

/-- A list. -/
def readList {α : Type} (read : Json → Except Mismatch α) : Json → Except Mismatch (List α)
  | array items => items.mapM read
  | other => .error (.invalidType other.found "a sequence")

/-- Any document, in its normal form. -/
def readAny (v : Json) : Except Mismatch Json := .ok v.normalize

/-! ## Records -/

/-- What becomes of a member that is not a field. -/
inductive Others where
  | ignored
  | refused
  | collected
  deriving DecidableEq

/-- The fields of a kind of record, each with the check of its value. -/
structure Layout where
  type : String
  fields : List (String × (Json → Except Mismatch Unit))
  others : Others

/-- A field that is read with `read`. -/
def fieldOf {α : Type} (name : String) (read : Json → Except Mismatch α) :
    String × (Json → Except Mismatch Unit) :=
  (name, fun value => discard (read value))

/-- The check of the field with a name. -/
def Layout.check? (layout : Layout) (name : String) : Option (Json → Except Mismatch Unit) :=
  layout.fields.lookup name

/-- The names of the fields. -/
def Layout.names (layout : Layout) : List String := layout.fields.map (·.1)

/-- Checks members in their order; `seen` holds the names of the fields before them. -/
def Layout.checkMembers (layout : Layout) (seen : List String) : Members → Except Mismatch Unit
  | [] => .ok ()
  | (name, value) :: rest =>
    match layout.check? name with
    | some check => do
      if seen.contains name then throw (.duplicateField name)
      check value
      layout.checkMembers (name :: seen) rest
    | none =>
      if layout.others = .refused then throw (.unknownField name layout.names)
      else layout.checkMembers seen rest

/-- The members of a record that passed the check of its layout. A record that was written as a list
has the count of its items. -/
structure Record where
  layout : Layout
  members : Members
  listed : Option Nat

/-- The words for how many fields a record has. -/
def Layout.expectedLength (layout : Layout) : String :=
  "struct " ++ layout.type ++ " with " ++ toString layout.fields.length ++ " elements"

/-- The record that a document writes. -/
def Layout.record (layout : Layout) : Json → Except Mismatch Record
  | object members => do
    layout.checkMembers [] members
    return ⟨layout, members, none⟩
  | array items => do
    if layout.others = .collected then
      throw (.invalidType .sequence ("struct " ++ layout.type))
    let members := layout.names.zip items
    layout.checkMembers [] members
    return ⟨layout, members, some items.length⟩
  | other => .error (.invalidType other.found ("struct " ++ layout.type))

/-- The value of a field, if the record has it. -/
def Record.field? {α : Type} (record : Record) (name : String) (read : Json → Except Mismatch α) :
    Except Mismatch (Option α) :=
  match find? name record.members with
  | some value => some <$> read value
  | none => .ok none

/-- The fault of a record without a field. -/
def Record.missing (record : Record) (name : String) : Mismatch :=
  match record.listed with
  | none => .missingField name
  | some length => .invalidLength length record.layout.expectedLength

/-- The value of a field that the record must have. -/
def Record.field {α : Type} (record : Record) (name : String) (read : Json → Except Mismatch α) :
    Except Mismatch α := do
  match ← record.field? name read with
  | some value => return value
  | none => throw (record.missing name)

/-- The value of a field that stands for nothing when it is null, or absent from an object. -/
def Record.nullable {α : Type} (record : Record) (name : String)
    (read : Json → Except Mismatch α) : Except Mismatch (Option α) := do
  match ← record.field? name (readOption read), record.listed with
  | some value, _ => return value
  | none, none => return none
  | none, some _ => throw (record.missing name)

/-- Refuses a list with more items than the record has fields. -/
def Record.close (record : Record) : Except Mismatch Unit :=
  match record.listed with
  | none => .ok ()
  | some length =>
    if record.layout.fields.length < length then
      .error (.invalidLength length "fewer elements in array")
    else .ok ()

/-- The members that are no fields, in their normal form. -/
def Record.others (record : Record) : Members :=
  sortMembers (normalizeMembers
    (record.members.filter fun member => (record.layout.check? member.1).isNone))

end CompletionCache.Json
