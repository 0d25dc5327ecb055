import CompletionCache.Decimal.Reader
import CompletionCache.Positional
import CompletionCache.Json.Printer

/-!
# Documents from text

`Json.read` takes a text to the document it writes, or to a fault with its place. Blank space may
stand around every token, a container may stand inside at most 126 others, and a whole number that
does not fit 64 bits is read as a binary64 number, as is the negative zero. Members are kept in the
order of the text, repeated names included.

How the digits of a binary64 number are rounded is left to the argument `round` of the readers;
`readDocument` takes `Binary64.readScaled`.

A fault carries what remained of the text where reading stopped and how many bytes beyond that point
it blames. `Fault.place` turns this into a line and a column, where a column counts bytes.
-/

set_option autoImplicit false

namespace CompletionCache.Json

/-! ## Faults -/

/-- What is wrong with a text. -/
inductive Reason where
  | endInArray
  | endInObject
  | endInString
  | endInValue
  | expectedColon
  | expectedCommaOrBracket
  | expectedCommaOrBrace
  | expectedWord
  | expectedValue
  | invalidEscape
  | invalidNumber
  | numberOutOfRange
  | controlCharacter
  | keyNotString
  | loneSurrogate
  | endOfEscape
  | trailingComma
  | trailingCharacters
  | tooDeep
  deriving DecidableEq

/-- The words of a reason. -/
def Reason.message : Reason → String
  | endInArray => "EOF while parsing a list"
  | endInObject => "EOF while parsing an object"
  | endInString => "EOF while parsing a string"
  | endInValue => "EOF while parsing a value"
  | expectedColon => "expected `:`"
  | expectedCommaOrBracket => "expected `,` or `]`"
  | expectedCommaOrBrace => "expected `,` or `\x7d`"
  | expectedWord => "expected ident"
  | expectedValue => "expected value"
  | invalidEscape => "invalid escape"
  | invalidNumber => "invalid number"
  | numberOutOfRange => "number out of range"
  | controlCharacter => "control character (\\u0000-\\u001F) found while parsing a string"
  | keyNotString => "key must be a string"
  | loneSurrogate => "lone leading surrogate in hex escape"
  | endOfEscape => "unexpected end of hex escape"
  | trailingComma => "trailing comma"
  | trailingCharacters => "trailing characters"
  | tooDeep => "recursion limit exceeded"

/-- Where reading stopped and why: `rest` remained, and the blamed byte is the `ahead`-th of it, or
the end of the text if that is nearer. -/
structure Fault where
  reason : Reason
  rest : List Char
  ahead : Nat

/-- A value that was read and what remains of the text. -/
abbrev Parsed (α : Type) := α × List Char

/-- A fault in front of the remaining text. -/
def here {α : Type} (reason : Reason) (rest : List Char) : Except Fault (Parsed α) :=
  .error ⟨reason, rest, 0⟩

/-- A fault behind the next byte of the remaining text. -/
def atNext {α : Type} (reason : Reason) (rest : List Char) : Except Fault (Parsed α) :=
  .error ⟨reason, rest, 1⟩

/-- How many bytes a text takes. -/
def byteCount (text : List Char) : Nat := text.foldl (fun count c => count + c.utf8Size) 0

/-- The number of the line that `count` bytes of a text lead to, and how many of those bytes stand
in that line. -/
def walk : (text : List Char) → (count line column : Nat) → Nat × Nat
  | [], _, line, column => (line, column)
  | c :: rest, count, line, column =>
    if count < c.utf8Size then (line, column + count)
    else if c = '\n' then walk rest (count - 1) (line + 1) 0
    else walk rest (count - c.utf8Size) line (column + c.utf8Size)

/-- The line and the column of a fault in a text. -/
def Fault.place (fault : Fault) (text : List Char) : Nat × Nat :=
  walk text (byteCount text - byteCount fault.rest + min fault.ahead (byteCount fault.rest)) 1 0

/-- The words and the place of a fault in a text. -/
def Fault.message (fault : Fault) (text : List Char) : String :=
  let (line, column) := fault.place text
  fault.reason.message ++ " at line " ++ toString line ++ " column " ++ toString column

/-! ## Tokens -/

/-- The characters that may stand between tokens. -/
def isBlank (c : Char) : Bool := c == ' ' || c == '\n' || c == '\t' || c == '\r'

/-- What follows the blank space at the front. -/
def skipBlank (text : List Char) : List Char := text.dropWhile isBlank

/-- Reads the rest of a word whose first character has been read. -/
def readWord (value : Json) : (word text : List Char) → Except Fault (Parsed Json)
  | [], text => .ok (value, text)
  | _ :: _, [] => here .endInValue []
  | expected :: word, c :: rest =>
    if c = expected then readWord value word rest else atNext .expectedWord (c :: rest)

/-- The value of four hexadecimal digits at the front. -/
def fourHexDigits? : List Char → Option Nat
  | a :: b :: c :: d :: _ => Positional.number? 16 [a, b, c, d]
  | _ => none

/-- The fault of an escape that does not go on with four hexadecimal digits. -/
def hexFault (text : List Char) : Fault :=
  if byteCount text < 4 then ⟨.endInString, [], 0⟩ else ⟨.invalidEscape, text, 4⟩

/-- The character behind a backslash, for the escapes of two characters. -/
def unescape? (c : Char) : Option Char :=
  if c = '"' ∨ c = '\\' ∨ c = '/' then some c
  else if c = 'b' then some '\x08'
  else if c = 'f' then some '\x0c'
  else if c = 'n' then some '\n'
  else if c = 'r' then some '\r'
  else if c = 't' then some '\t'
  else none

/-- The fault of a leading surrogate without a trailing one behind it, in front of the text after
its four digits. -/
def surrogateFault : List Char → Fault
  | [] => ⟨.endInString, [], 0⟩
  | '\\' :: [] => ⟨.endInString, [], 0⟩
  | '\\' :: 'u' :: rest =>
    match fourHexDigits? rest with
    | some _ => ⟨.loneSurrogate, rest.drop 4, 0⟩
    | none => hexFault rest
  | '\\' :: rest => ⟨.endOfEscape, rest, 1⟩
  | rest => ⟨.endOfEscape, rest, 1⟩

/-- The character that an escape `u` stands for, read from the text after the `u`, and how many
characters it takes: four digits, or a second escape behind them for a pair of surrogates. -/
def readEscape (text : List Char) : Except Fault (Char × Nat) :=
  match fourHexDigits? text with
  | none => .error (hexFault text)
  | some unit =>
    if 0xDC00 ≤ unit ∧ unit ≤ 0xDFFF then .error ⟨.loneSurrogate, text.drop 4, 0⟩
    else if unit < 0xD800 ∨ 0xDBFF < unit then .ok (Char.ofNat unit, 4)
    else
      match text.drop 4 with
      | '\\' :: 'u' :: rest =>
        match fourHexDigits? rest with
        | some low =>
          if 0xDC00 ≤ low ∧ low ≤ 0xDFFF then
            .ok (Char.ofNat (0x10000 + 1024 * (unit - 0xD800) + (low - 0xDC00)), 10)
          else .error (surrogateFault (text.drop 4))
        | none => .error (surrogateFault (text.drop 4))
      | after => .error (surrogateFault after)

/-- Reads a text up to its closing quote; the first `skip` characters belong to an escape that has
been read, and `read` holds the characters so far, the last one first. -/
def readString : (text : List Char) → (skip : Nat) → (read : List Char) →
    Except Fault (Parsed String)
  | [], _, _ => here .endInString []
  | _ :: rest, skip + 1, read => readString rest skip read
  | '"' :: rest, 0, read => .ok (String.ofList read.reverse, rest)
  | '\\' :: rest, 0, read =>
    match rest with
    | [] => here .endInString []
    | 'u' :: digits =>
      match readEscape digits with
      | .ok (c, length) => readString rest (length + 1) (c :: read)
      | .error fault => .error fault
    | c :: _ =>
      match unescape? c with
      | some meant => readString rest 1 (meant :: read)
      | none => atNext .invalidEscape rest
  | c :: rest, 0, read =>
    if c.toNat < 32 then atNext .controlCharacter (c :: rest) else readString rest 0 (c :: read)

/-! ## Numbers -/

/-- The digits at the front, and what follows them. -/
def digitsOf (text : List Char) : List Char × List Char := text.span Char.isDigit

/-- The text behind the first digit with which the digits exceed the greatest exponent. -/
def exponentOverflow? (value : Nat) : List Char → Option (List Char)
  | [] => none
  | c :: rest =>
    if c.isDigit then
      let next := 10 * value + (c.toNat - 48)
      if 2147483647 < next then some rest else exponentOverflow? next rest
    else none

section Numbers

variable (round : Binary64.Rounding)

/-- The binary64 number that digits write, if it is finite. -/
def decimalNumber (negative : Bool) (whole places : List Char) (exponent : Int)
    (rest : List Char) : Except Fault (Parsed Json) :=
  let value := round negative whole places exponent
  if value.isFinite then .ok (number (.real value), rest) else here .numberOutOfRange rest

/-- Reads an exponent whose letter has been read, behind the digits in front of the point and the
`places` behind it. -/
def readExponent (negative : Bool) (whole places : List Char) (text : List Char) :
    Except Fault (Parsed Json) :=
  let (below, unsigned) := match text with
    | '+' :: rest => (false, rest)
    | '-' :: rest => (true, rest)
    | rest => (false, rest)
  match unsigned with
  | [] => here .endInValue []
  | c :: rest =>
    if c.isDigit then
      let (written, after) := digitsOf (c :: rest)
      match exponentOverflow? 0 (c :: rest) with
      | some behind =>
        if Positional.decimal (whole ++ places) ≠ 0 ∧ !below then here .numberOutOfRange behind
        else .ok (number (.real (.ofMagnitude negative 0)), after)
      | none =>
        let size : Int := Positional.decimal written
        decimalNumber round negative whole places (if below then -size else size) after
    else atNext .invalidNumber (c :: rest)

/-- Reads what follows the whole part of a number. -/
def readFraction (negative : Bool) (whole : List Char) (text : List Char) :
    Except Fault (Parsed Json) :=
  match text with
  | '.' :: rest =>
    let (places, after) := digitsOf rest
    if places.isEmpty then
      if after.isEmpty then here .endInValue [] else atNext .invalidNumber after
    else
      match after with
      | 'e' :: rest => readExponent round negative whole places rest
      | 'E' :: rest => readExponent round negative whole places rest
      | _ => decimalNumber round negative whole places 0 after
  | 'e' :: rest => readExponent round negative whole [] rest
  | 'E' :: rest => readExponent round negative whole [] rest
  | _ =>
    let size : Int := Positional.decimal whole
    let value := if negative then -size else size
    if (negative ∧ value = 0) ∨ value < Number.leastInteger ∨ Number.greatestInteger < value then
      decimalNumber round negative whole [] 0 text
    else .ok (number (.integer value), text)

/-- Reads a number whose sign has been read. -/
def readNumber (negative : Bool) : List Char → Except Fault (Parsed Json)
  | [] => here .endInValue []
  | '0' :: rest =>
    if rest.head?.any Char.isDigit then atNext .invalidNumber rest
    else readFraction round negative ['0'] rest
  | c :: rest =>
    if c.isDigit then
      let (whole, after) := digitsOf (c :: rest)
      readFraction round negative whole after
    else atNext .invalidNumber (c :: rest)

end Numbers

/-! ## Values -/

/-- Reads the items behind an opening bracket, each with `readItem`. Behind the first item a comma
stands in front of each next one. The fuel bounds the number of items. -/
def readItems (readItem : List Char → Except Fault (Parsed Json)) :
    (fuel : Nat) → (isFirst : Bool) → (text : List Char) → Except Fault (Parsed (List Json))
  | 0, _, text => here .endInArray text
  | fuel + 1, isFirst, text =>
    let readOne (text : List Char) : Except Fault (Parsed (List Json)) := do
      let (item, rest) ← readItem text
      let (items, rest) ← readItems readItem fuel false rest
      return (item :: items, rest)
    match skipBlank text with
    | [] => here .endInArray []
    | ']' :: rest => .ok ([], rest)
    | ',' :: rest =>
      if isFirst then readOne (',' :: rest)
      else
        match skipBlank rest with
        | [] => here .endInValue []
        | ']' :: rest => atNext .trailingComma (']' :: rest)
        | text => readOne text
    | text => if isFirst then readOne text else atNext .expectedCommaOrBracket text

/-- Reads a member from its opening quote on, its value with the reader for its name. -/
def readMember (readValue : String → List Char → Except Fault (Parsed Json)) (text : List Char) :
    Except Fault (Parsed (String × Json)) :=
  match text with
  | '"' :: rest => do
    let (name, rest) ← readString rest 0 []
    match skipBlank rest with
    | [] => here .endInObject []
    | ':' :: rest =>
      let (value, rest) ← readValue name rest
      return ((name, value), rest)
    | rest => atNext .expectedColon rest
  | text => atNext .keyNotString text

/-- Reads the members behind an opening brace, each with `readMember`. Behind the first member a comma
stands in front of each next one. The fuel bounds the number of members. -/
def readMembers (readMember : List Char → Except Fault (Parsed (String × Json))) :
    (fuel : Nat) → (isFirst : Bool) → (text : List Char) →
      Except Fault (Parsed (List (String × Json)))
  | 0, _, text => here .endInObject text
  | fuel + 1, isFirst, text =>
    let readOne (text : List Char) : Except Fault (Parsed (List (String × Json))) := do
      let (member, rest) ← readMember text
      let (members, rest) ← readMembers readMember fuel false rest
      return (member :: members, rest)
    match skipBlank text with
    | [] => here .endInObject []
    | '}' :: rest => .ok ([], rest)
    | ',' :: rest =>
      if isFirst then readOne (',' :: rest)
      else
        match skipBlank rest with
        | [] => here .endInValue []
        | '}' :: rest => atNext .trailingComma ('}' :: rest)
        | text => readOne text
    | text => if isFirst then readOne text else atNext .expectedCommaOrBrace text

/-- How many containers may stand inside one another. -/
def maxNesting : Nat := 127

/-- Reads a value in which at most `depth` containers stand inside one another. -/
def readValue (round : Binary64.Rounding) (depth : Nat) (text : List Char) :
    Except Fault (Parsed Json) :=
  match skipBlank text with
  | [] => here .endInValue []
  | 'n' :: rest => readWord null ['u', 'l', 'l'] rest
  | 't' :: rest => readWord (bool true) ['r', 'u', 'e'] rest
  | 'f' :: rest => readWord (bool false) ['a', 'l', 's', 'e'] rest
  | '-' :: rest => readNumber round true rest
  | '"' :: rest => do
    let (value, rest) ← readString rest 0 []
    return (string value, rest)
  | '[' :: rest =>
    match depth with
    | 0 => atNext .tooDeep ('[' :: rest)
    | depth + 1 => do
      let (items, rest) ← readItems (readValue round depth) (rest.length + 1) true rest
      return (array items, rest)
  | '{' :: rest =>
    match depth with
    | 0 => atNext .tooDeep ('{' :: rest)
    | depth + 1 => do
      let (members, rest) ←
        readMembers (readMember fun _ => readValue round depth) (rest.length + 1) true rest
      return (object members, rest)
  | c :: rest =>
    if c.isDigit then readNumber round false (c :: rest) else atNext .expectedValue (c :: rest)

/-- A reader of a value in which at most `depth` containers stand inside one another. -/
abbrev ValueReader := (depth : Nat) → (text : List Char) → Except Fault (Parsed Json)

/-- Reads any value. -/
def readDocument : ValueReader := readValue Binary64.readScaled

/-- Reads a text that holds one value and nothing else. -/
def readAll (reader : ValueReader) (text : List Char) : Except Fault Json := do
  let (value, rest) ← reader maxNesting text
  match skipBlank rest with
  | [] => return value
  | rest => .error ⟨.trailingCharacters, rest, 1⟩

/-- The document that a text writes, or the words of what is wrong with it. -/
def read (text : String) : Except String Json :=
  match readAll readDocument text.toList with
  | .ok value => .ok value
  | .error fault => .error (fault.message text.toList)

end CompletionCache.Json
