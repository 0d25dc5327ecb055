import CompletionCache.Json.Basic

/-!
# Documents as text

`Json.written` is the compact text of a document: no blank space, members in the order they are
held. `Json.writtenIndented` puts every item and member on a line of its own. In a text the quote,
the backslash and the characters below the space are escaped and all else stands as it is. A number
that is not finite is written as null.
-/

set_option autoImplicit false

namespace CompletionCache

/-- The digits of a whole number, with a sign when it is negative. -/
def integerText (n : Int) : List Char :=
  if n < 0 then '-' :: Nat.toDigits 10 n.natAbs else Nat.toDigits 10 n.natAbs

namespace Json

/-- The word for null. -/
def nullText : List Char := ['n', 'u', 'l', 'l']

/-- The word for a boolean. -/
def boolText : Bool → List Char
  | true => ['t', 'r', 'u', 'e']
  | false => ['f', 'a', 'l', 's', 'e']

/-- The text of a number. -/
def numberText : Number → List Char
  | .integer value => integerText value
  | .real value => if value.isFinite then value.documentText else nullText

/-- A character inside a quoted text. -/
def escaped (c : Char) : List Char :=
  if c = '"' then ['\\', '"']
  else if c = '\\' then ['\\', '\\']
  else if c = '\n' then ['\\', 'n']
  else if c = '\r' then ['\\', 'r']
  else if c = '\t' then ['\\', 't']
  else if c = '\x08' then ['\\', 'b']
  else if c = '\x0c' then ['\\', 'f']
  else if c.toNat < 32 then
    ['\\', 'u', '0', '0', Nat.digitChar (c.toNat / 16), Nat.digitChar (c.toNat % 16)]
  else [c]

/-- A text in quotes. -/
def quoted (s : String) : List Char := '"' :: s.toList.flatMap escaped ++ ['"']

mutual

/-- The compact text of a document. -/
def written : Json → List Char
  | null => nullText
  | bool value => boolText value
  | number value => numberText value
  | string value => quoted value
  | array items => '[' :: writtenItems items ++ [']']
  | object members => '{' :: writtenMembers members ++ ['}']

/-- Items with a comma between each two. -/
def writtenItems : List Json → List Char
  | [] => []
  | [item] => written item
  | item :: next :: rest => written item ++ ',' :: writtenItems (next :: rest)

/-- Members with a comma between each two. -/
def writtenMembers : List (String × Json) → List Char
  | [] => []
  | [(name, value)] => quoted name ++ ':' :: written value
  | (name, value) :: next :: rest =>
    quoted name ++ ':' :: written value ++ ',' :: writtenMembers (next :: rest)

end

/-- The compact text of a document. -/
def text (v : Json) : String := String.ofList v.written

/-! ## One line for each item -/

/-- A new line with two blanks for each container around it. -/
def newLine (depth : Nat) : List Char := '\n' :: List.replicate (2 * depth) ' '

mutual

/-- The text of a document that stands inside `depth` containers, one line for each item and member.
An empty container stays on its line. -/
def writtenIndented (depth : Nat) : Json → List Char
  | array [] => ['[', ']']
  | array (item :: rest) =>
    '[' :: newLine (depth + 1) ++ writtenIndented (depth + 1) item ++
      indentedItems (depth + 1) rest ++ newLine depth ++ [']']
  | object [] => ['{', '}']
  | object ((name, value) :: rest) =>
    '{' :: newLine (depth + 1) ++ quoted name ++ ':' :: ' ' ::
      writtenIndented (depth + 1) value ++ indentedMembers (depth + 1) rest ++
      newLine depth ++ ['}']
  | null => nullText
  | bool value => boolText value
  | number value => numberText value
  | string value => quoted value

/-- The items after the first, each behind a comma and a new line. -/
def indentedItems (depth : Nat) : List Json → List Char
  | [] => []
  | item :: rest =>
    ',' :: newLine depth ++ writtenIndented depth item ++ indentedItems depth rest

/-- The members after the first, each behind a comma and a new line. -/
def indentedMembers (depth : Nat) : List (String × Json) → List Char
  | [] => []
  | (name, value) :: rest =>
    ',' :: newLine depth ++ quoted name ++ ':' :: ' ' :: writtenIndented depth value ++
      indentedMembers depth rest

end

/-- The text of a document with one line for each item and member. -/
def indentedText (v : Json) : String := String.ofList (writtenIndented 0 v)

end Json

end CompletionCache
