import CompletionCache.Decimal.Reader
import CompletionCache.Json.Printer
import CompletionCache.Yaml.Node

/-!
# Values of a YAML document

A `Value` is a node in which every alias has given way to what it stands for. `Value.read` refuses a
text whose values nest deeper than `maxDepth` or repeat too often. A scalar has no type of its own:
the place where it stands says how it is read, and each way of reading gives the document that it
stands for. Only `Value.plain` goes by the form of the scalars themselves.
-/

set_option autoImplicit false

namespace CompletionCache.Yaml

/-- A value. -/
inductive Value where
  | scalar (tag : Option Tag) (text : List Char) (style : Style)
  | sequence (tag : Option Tag) (items : List Value)
  | mapping (tag : Option Tag) (entries : List (Value × Value))

/-! ## Aliases -/

/-- How many collections may stand inside one another. -/
def maxDepth : Nat := 128

/-- How many aliases a document may follow for each event of its own. -/
def aliasesPerEvent : Nat := 100

/-- The node that a node stands for; the state counts the aliases that may still be followed. -/
def Node.resolve (anchors : List (Nat × Node)) : Node → StateT Nat (Except Fault) Node
  | .reference number => do
    let budget ← get
    if budget = 0 then throw .tooLarge
    set (budget - 1)
    match anchors.lookup number with
    | some node => return node
    | none => throw .undefinedName
  | node => return node

/-- The value of a node, with collections nested no deeper than `depth`. -/
def Node.value (anchors : List (Nat × Node)) :
    (depth : Nat) → Node → StateT Nat (Except Fault) Value
  | 0, node => do
    match ← node.resolve anchors with
    | .scalar _ tag text style => return .scalar tag text style
    | _ => throw .tooLarge
  | depth + 1, node => do
    match ← node.resolve anchors with
    | .reference _ => throw .undefinedName
    | .scalar _ tag text style => return .scalar tag text style
    | .sequence _ tag items => return .sequence tag (← items.mapM (Node.value anchors depth))
    | .mapping _ tag entries =>
      return .mapping tag (← entries.mapM fun entry => do
        let key ← Node.value anchors depth entry.1
        return (key, ← Node.value anchors depth entry.2))

namespace Value

/-- The value of the only document of a text. -/
def read (text : List Char) : Except Fault Value := do
  let root ← Document.read text
  let (value, _) ← (root.value root.anchored.reverse maxDepth).run (aliasesPerEvent * root.size)
  return value

/-! ## Words and numbers -/

/-- The words for null. -/
def isNullWord (text : List Char) : Bool :=
  ["null", "Null", "NULL", "~"].contains (String.ofList text)

/-- The boolean that a word means. -/
def boolean? (text : List Char) : Option Bool :=
  let word := String.ofList text
  if ["true", "True", "TRUE"].contains word then some true
  else if ["false", "False", "FALSE"].contains word then some false
  else none

/-- Whether a text consists of digits with a zero in front, which makes it no number. -/
def isPaddedDigits (text : List Char) : Bool :=
  match (Positional.splitSign text).2 with
  | '0' :: c :: rest => (c :: rest).all Char.isDigit
  | _ => false

/-- The number that a text writes in a base named in front, or else in decimal digits. -/
def magnitude? (text : List Char) : Option Nat :=
  let inBase (base : Nat) (digits : List Char) : Option Nat :=
    if digits.isEmpty then none else Positional.number? base digits
  match text with
  | '0' :: 'x' :: digits => inBase 16 digits
  | '0' :: 'o' :: digits => inBase 8 digits
  | '0' :: 'b' :: digits => inBase 2 digits
  | digits => if isPaddedDigits digits then none else inBase 10 digits

/-- The text without a plus in front. -/
def dropPlus : List Char → List Char
  | '+' :: rest => rest
  | text => text

/-- The whole number that a text writes. -/
def integer? : List Char → Option Int
  | '-' :: rest => (magnitude? rest).map fun n => -(n : Int)
  | text => (magnitude? (dropPlus text)).map Int.ofNat

/-- The binary64 number that a text writes; a number too large is none. -/
def real? (text : List Char) : Option Binary64 :=
  let signed := dropPlus text
  if [".inf", ".Inf", ".INF"].contains (String.ofList signed) then some (.infinity false)
  else if ["-.inf", "-.Inf", "-.INF"].contains (String.ofList text) then some (.infinity true)
  else if [".nan", ".NaN", ".NAN"].contains (String.ofList text) then some .nan
  else if signed.length < text.length ∧ (signed.head? = some '+' ∨ signed.head? = some '-') then
    none
  else (Binary64.parse? signed).filter Binary64.isFinite

/-! ## Reading by place -/

/-- The tag of a standard type. -/
def standardTag (name : String) : Tag := ("tag:yaml.org,2002:" ++ name).toList

/-- The text of a scalar that may write a number or a boolean: a plain one, or a literal one with
the tag of the type. -/
def typedText? (type : String) : Value → Option (List Char)
  | scalar _ text .plain => some text
  | scalar tag text .literal => if tag = some (standardTag type) then some text else none
  | _ => none

/-- Where a whole number of 64 bits is wanted. -/
def whole (v : Value) : Except Fault Json :=
  match (v.typedText? "int").bind fun text => magnitude? (dropPlus text) with
  | some n => if n < UInt64.size then .ok (.ofNat n) else .error .shape
  | none => .error .shape

/-- Where a binary64 number is wanted. -/
def real (v : Value) : Except Fault Json :=
  match (v.typedText? "float").bind real? with
  | some x => .ok (.number (.real x))
  | none => .error .shape

/-- Where a boolean is wanted. -/
def switch (v : Value) : Except Fault Json :=
  match (v.typedText? "bool").bind boolean? with
  | some b => .ok (.bool b)
  | none => .error .shape

/-- The text of any scalar. -/
def scalarText : Value → Except Fault String
  | scalar _ text _ => .ok (String.ofList text)
  | _ => .error .shape

/-- Where a text is wanted: any scalar is one. -/
def text (v : Value) : Except Fault Json := return .string (← v.scalarText)

/-- Whether a scalar stands for nothing. Written as null by its tag, it has to be a word for
null. -/
def isNothing : Value → Except Fault Bool
  | scalar none text .plain => .ok (text.isEmpty || isNullWord text)
  | scalar (some tag) text .plain =>
    if tag ≠ standardTag "null" then .ok false
    else if isNullWord text then .ok true
    else .error .shape
  | _ => .ok false

/-- Where a value may be missing. -/
def optional (read : Value → Except Fault Json) (v : Value) : Except Fault Json := do
  if ← v.isNothing then return .null else read v

/-- Where a list is wanted; where nothing is written it is empty. -/
def list (read : Value → Except Fault Json) : Value → Except Fault Json
  | sequence _ items => return .array (← items.mapM read)
  | scalar _ [] .plain => .ok (.array [])
  | _ => .error .shape

/-- Where a record of some fields is wanted; where nothing is written it has no members. -/
def record (fields : List (String × (Value → Except Fault Json))) : Value → Except Fault Json
  | mapping _ entries => do
    let members ← entries.mapM fun entry => do
      let name ← entry.1.scalarText
      match fields.lookup name with
      | some read => return (name, ← read entry.2)
      | none => throw .shape
    return .object members
  | scalar _ [] .plain => .ok (.object [])
  | _ => .error .shape

/-! ## Reading by form -/

/-- A whole number, if it has at most 64 bits. -/
def boundedInteger (n : Int) : Except Fault Json :=
  if Number.leastInteger ≤ n ∧ n ≤ Number.greatestInteger then .ok (.number (.integer n))
  else .error .tooLarge

/-- The whole number of at most 128 bits that a text writes; a longer one does not count as
whole. -/
def wideInteger? (text : List Char) : Option Int :=
  (integer? text).filter fun n => decide (-(Nat.pow 2 127 : Nat) ≤ n ∧ n < (Nat.pow 2 128 : Nat))

/-- A scalar that its form makes null, a boolean, a number or else a text. -/
def plainScalar (text : List Char) : Except Fault Json :=
  if text.isEmpty || isNullWord text then .ok .null
  else
    match boolean? text, wideInteger? text, real? text with
    | some b, _, _ => .ok (.bool b)
    | none, some n, _ => boundedInteger n
    | none, none, some x =>
      .ok (if isPaddedDigits text then .string (String.ofList text) else .number (.real x))
    | none, none, none => .ok (.string (String.ofList text))

/-- A scalar with a tag that names its type. -/
def taggedScalar (tag : Tag) (text : List Char) : Except Fault Json :=
  let refuseNone (value : Option Json) : Except Fault Json :=
    match value with
    | some v => .ok v
    | none => .error .shape
  if tag = standardTag "bool" then refuseNone ((boolean? text).map .bool)
  else if tag = standardTag "int" then
    match integer? text with
    | some n => boundedInteger n
    | none => .error .shape
  else if tag = standardTag "float" then refuseNone ((real? text).map fun x => .number (.real x))
  else if tag = standardTag "null" then refuseNone (if isNullWord text then some .null else none)
  else .ok (.string (String.ofList text))

/-- Whether a tag is a name of the document's own. -/
def isOwnTag (tag : Option Tag) : Bool := tag.any fun name => name.head? == some '!'

/-- The name of a member whose key has the form of a document. -/
def keyName : Json → String
  | .string name => name
  | key => key.text

mutual
/-- A value read by its form, without knowing what is wanted. Tags of the document's own are
refused. -/
def plain : Value → Except Fault Json
  | scalar tag text style =>
    if isOwnTag tag then .error .shape
    else
      match tag, style with
      | some tag, _ => taggedScalar tag text
      | none, .plain => plainScalar text
      | none, _ => .ok (.string (String.ofList text))
  | sequence tag items => do
    if isOwnTag tag then throw .shape
    return .array (← plainItems items)
  | mapping tag entries => do
    if isOwnTag tag then throw .shape
    return .object ((← plainEntries entries).map fun member => (keyName member.1, member.2))

@[inherit_doc plain]
def plainItems : List Value → Except Fault (List Json)
  | [] => .ok []
  | item :: rest => do
    let v ← item.plain
    return v :: (← plainItems rest)

/-- The keys and values of a mapping, read by their form. -/
def plainEntries : List (Value × Value) → Except Fault (List (Json × Json))
  | [] => .ok []
  | (key, value) :: rest => do
    let name ← key.plain
    let v ← value.plain
    return (name, v) :: (← plainEntries rest)
end

end Value

end CompletionCache.Yaml
