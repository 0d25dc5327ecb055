import CompletionCache.Json.Reader
import CompletionCache.Json.Record

/-!
# Records from text

Where the layout of a record ignores the members that are no fields, their values are passed over:
`skipValue` holds them to the grammar and to nothing else. So a number among them may be out of every
range, an escape may be half of a pair, and containers may stand inside one another to any depth. The
names of the record itself are read like any text, and the values of its fields each by a reader of
its own, since a field may hold a record again. A value that was passed over stands as null in the
document that is read.
-/

set_option autoImplicit false

namespace CompletionCache.Json

/-! ## Values that are passed over -/

/-- What follows a text up to its closing quote; the first `skip` characters belong to an escape
that has been read. -/
def skipString : (text : List Char) → (skip : Nat) → Except Fault (List Char)
  | [], _ => .error ⟨.endInString, [], 0⟩
  | _ :: rest, skip + 1 => skipString rest skip
  | '"' :: rest, 0 => .ok rest
  | '\\' :: rest, 0 =>
    match rest with
    | [] => .error ⟨.endInString, [], 0⟩
    | 'u' :: digits =>
      match fourHexDigits? digits with
      | some _ => skipString rest 5
      | none => .error (hexFault digits)
    | c :: _ =>
      match unescape? c with
      | some _ => skipString rest 1
      | none => .error ⟨.invalidEscape, rest, 1⟩
  | c :: rest, 0 =>
    if c.toNat < 32 then .error ⟨.controlCharacter, c :: rest, 1⟩ else skipString rest 0

/-- Passes over an exponent whose letter has been read. -/
def skipExponent (text : List Char) : Except Fault (Parsed Json) :=
  let unsigned := match text with
    | '+' :: rest => rest
    | '-' :: rest => rest
    | rest => rest
  match unsigned with
  | [] => here .endInValue []
  | c :: rest =>
    if c.isDigit then .ok (null, (digitsOf rest).2) else atNext .invalidNumber (c :: rest)

/-- Passes over what follows the whole part of a number. -/
def skipFraction (text : List Char) : Except Fault (Parsed Json) :=
  match text with
  | '.' :: rest =>
    let (places, after) := digitsOf rest
    if places.isEmpty then
      if after.isEmpty then here .endInValue [] else atNext .invalidNumber after
    else
      match after with
      | 'e' :: rest => skipExponent rest
      | 'E' :: rest => skipExponent rest
      | _ => .ok (null, after)
  | 'e' :: rest => skipExponent rest
  | 'E' :: rest => skipExponent rest
  | _ => .ok (null, text)

/-- Passes over a number whose sign has been read. -/
def skipNumber : List Char → Except Fault (Parsed Json)
  | [] => here .endInValue []
  | '0' :: rest =>
    if rest.head?.any Char.isDigit then atNext .invalidNumber rest else skipFraction rest
  | c :: rest =>
    if c.isDigit then skipFraction (digitsOf rest).2 else atNext .invalidNumber (c :: rest)

/-- Passes over a member from its opening quote on, its value with `skipValue`. -/
def skipMember (skipValue : List Char → Except Fault (Parsed Json)) (text : List Char) :
    Except Fault (Parsed (String × Json)) :=
  match text with
  | '"' :: rest => do
    let rest ← skipString rest 0
    match skipBlank rest with
    | [] => here .endInObject []
    | ':' :: rest =>
      let (_, rest) ← skipValue rest
      return (("", null), rest)
    | rest => atNext .expectedColon rest
  | text => atNext .keyNotString text

/-- Passes over a value. The fuel bounds how many containers stand inside one another. -/
def skipValue : (fuel : Nat) → (text : List Char) → Except Fault (Parsed Json)
  | 0, text => here .endInValue text
  | fuel + 1, text =>
    match skipBlank text with
    | [] => here .endInValue []
    | 'n' :: rest => readWord null ['u', 'l', 'l'] rest
    | 't' :: rest => readWord null ['r', 'u', 'e'] rest
    | 'f' :: rest => readWord null ['a', 'l', 's', 'e'] rest
    | '-' :: rest => skipNumber rest
    | '"' :: rest => do return (null, ← skipString rest 0)
    | '[' :: rest => do
      let (_, rest) ← readItems (skipValue fuel) (rest.length + 1) true rest
      return (null, rest)
    | '{' :: rest => do
      let (_, rest) ← readMembers (skipMember (skipValue fuel)) (rest.length + 1) true rest
      return (null, rest)
    | c :: rest => if c.isDigit then skipNumber (c :: rest) else atNext .expectedValue (c :: rest)

/-! ## Records -/

/-- Passes a value over, however deep it is. -/
def passOver : ValueReader := fun _ text => skipValue (text.length + 1) text

/-- The reader of the value under a name: that of the field with this name, or `others`. -/
def readerOf (fields : List (String × ValueReader)) (others : ValueReader) (name : String) :
    ValueReader :=
  (fields.lookup name).getD others

/-- Reads items behind an opening bracket, each with the reader of its place. -/
def readPlaces (depth : Nat) : (readers : List ValueReader) → (isFirst : Bool) →
    (text : List Char) → Except Fault (Parsed (List Json))
  | [], _, text =>
    match skipBlank text with
    | [] => here .endInArray []
    | ']' :: rest => .ok ([], rest)
    | rest => atNext .trailingCharacters rest
  | read :: readers, isFirst, text =>
    let readOne (text : List Char) : Except Fault (Parsed (List Json)) := do
      let (item, rest) ← read depth text
      let (items, rest) ← readPlaces depth readers false rest
      return (item :: items, rest)
    match skipBlank text with
    | [] => here .endInArray []
    | ']' :: rest => .ok ([], rest)
    | ',' :: rest => if isFirst then atNext .expectedValue (',' :: rest) else readOne rest
    | text => if isFirst then readOne text else atNext .expectedCommaOrBracket text

/-- Reads the values of fields each with its own reader: in an object by name, where other members
are read with `others`, and in a list by place. Anything else is read like any value. -/
def readFields (fields : List (String × ValueReader)) (others : ValueReader) : ValueReader :=
  fun depth text =>
    match skipBlank text with
    | '[' :: rest =>
      match depth with
      | 0 => atNext .tooDeep ('[' :: rest)
      | depth + 1 => do
        let (items, rest) ← readPlaces depth (fields.map (·.2)) true rest
        return (array items, rest)
    | '{' :: rest =>
      match depth with
      | 0 => atNext .tooDeep ('{' :: rest)
      | depth + 1 => do
        let (members, rest) ←
          readMembers (readMember fun name => readerOf fields others name depth)
            (rest.length + 1) true rest
        return (object members, rest)
    | text => readDocument depth text

/-- The readers of the fields of a layout: those in `inner`, and for the rest one of any value. -/
def Layout.readers (layout : Layout) (inner : List (String × ValueReader)) :
    List (String × ValueReader) :=
  layout.names.map fun name => (name, readerOf inner readDocument name)

/-- Reads the text of a record. The fields in `inner` have readers of their own, and members that the
layout ignores are passed over. -/
def Layout.reader (layout : Layout) (inner : List (String × ValueReader)) : ValueReader :=
  readFields (layout.readers inner) (if layout.others = .ignored then passOver else readDocument)

end CompletionCache.Json
