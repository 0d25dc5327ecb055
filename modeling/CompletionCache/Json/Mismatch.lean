import CompletionCache.Json.Printer
import CompletionCache.Unprintable

/-!
# Why a document does not have the expected shape

A `Mismatch` is the cause, `Mismatch.message` its words. `Found` names the kind of value that stood
in the way; a text is shown in quotes with its unprintable characters escaped.
-/

set_option autoImplicit false

namespace CompletionCache.Json

/-- A kind of value, as far as a message shows it. -/
inductive Found where
  | null
  | bool (value : Bool)
  | integer (value : Int)
  | real (value : Binary64)
  | string (value : String)
  | sequence
  | map
  deriving DecidableEq

/-- The kind of a document. -/
def found : Json → Found
  | null => .null
  | bool value => .bool value
  | number (.integer value) => .integer value
  | number (.real value) => .real value
  | string value => .string value
  | array _ => .sequence
  | object _ => .map

/-- Why a document does not have the expected shape. -/
inductive Mismatch where
  | invalidType (found : Found) (expected : String)
  | invalidValue (found : Found) (expected : String)
  | invalidLength (length : Nat) (expected : String)
  | missingField (name : String)
  | unknownField (name : String) (known : List String)
  | duplicateField (name : String)
  | unknownVariant (name : String) (known : List String)
  | noVariant (type : String)
  | invalidTimestamp (seconds : Binary64)
  | timestampOutOfRange (seconds : Binary64)
  deriving DecidableEq

/-! ## Wording -/

/-- A character inside a quoted text of a message. -/
def shownChar (c : Char) : List Char :=
  if c = '"' then ['\\', '"']
  else if c = '\\' then ['\\', '\\']
  else if c = '\n' then ['\\', 'n']
  else if c = '\r' then ['\\', 'r']
  else if c = '\t' then ['\\', 't']
  else if c = '\x00' then ['\\', '0']
  else if Unprintable.isUnprintable c then '\\' :: 'u' :: '{' :: Nat.toDigits 16 c.toNat ++ ['}']
  else [c]

/-- A text in quotes inside a message. -/
def shown (s : String) : String := String.ofList ('"' :: s.toList.flatMap shownChar ++ ['"'])

/-- The words for a kind of value. -/
def Found.message : Found → String
  | null => "null"
  | bool value => "boolean `" ++ String.ofList (boolText value) ++ "`"
  | integer value => "integer `" ++ String.ofList (integerText value) ++ "`"
  | real value => "floating point `" ++ String.ofList (numberText (.real value)) ++ "`"
  | string value => "string " ++ shown value
  | sequence => "sequence"
  | map => "map"

/-- The choice among some names. -/
def oneOf : List String → String
  | [] => "nothing"
  | [name] => "`" ++ name ++ "`"
  | [first, second] => "`" ++ first ++ "` or `" ++ second ++ "`"
  | names => "one of " ++ ", ".intercalate (names.map fun name => "`" ++ name ++ "`")

/-- The words of a mismatch. -/
def Mismatch.message : Mismatch → String
  | invalidType found expected => "invalid type: " ++ found.message ++ ", expected " ++ expected
  | invalidValue found expected => "invalid value: " ++ found.message ++ ", expected " ++ expected
  | invalidLength length expected =>
    "invalid length " ++ toString length ++ ", expected " ++ expected
  | missingField name => "missing field `" ++ name ++ "`"
  | unknownField name known => "unknown field `" ++ name ++ "`, expected " ++ oneOf known
  | duplicateField name => "duplicate field `" ++ name ++ "`"
  | unknownVariant name known => "unknown variant `" ++ name ++ "`, expected " ++ oneOf known
  | noVariant type => "data did not match any variant of untagged enum " ++ type
  | invalidTimestamp seconds => "invalid unix timestamp " ++ seconds.messageText
  | timestampOutOfRange seconds => "unix timestamp " ++ seconds.messageText ++ " out of range"

end CompletionCache.Json
