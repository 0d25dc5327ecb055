import CompletionCache.Positional

/-!
# Percent encoding

`Percent.encode` writes the characters of a set, the controls and everything outside ASCII as the
bytes of their UTF-8 form in hexadecimal digits; `Percent.decode` gives the bytes that a text stands
for and leaves a percent sign without two digits behind it as it is. Each part of an address has its
own set.
-/

set_option autoImplicit false

namespace CompletionCache.Percent

/-- A large hexadecimal digit. -/
def digit (n : Nat) : Char := (Nat.digitChar n).toUpper

/-- A byte behind a percent sign. -/
def encodeByte (byte : UInt8) : List Char :=
  ['%', digit (byte.toNat / 16), digit (byte.toNat % 16)]

/-- Whether a character is a control or lies outside ASCII. -/
def isForeign (c : Char) : Bool := decide (c.toNat < 0x20 ∨ 0x7E < c.toNat)

/-- A text with the characters of a set written by their bytes. -/
def encode (set : Char → Bool) (text : List Char) : List Char :=
  text.flatMap fun c =>
    if isForeign c || set c then (String.utf8EncodeChar c).flatMap encodeByte else [c]

/-- The bytes that a text stands for. -/
def decode : List Char → List UInt8
  | '%' :: high :: low :: rest =>
    match Positional.digit? high, Positional.digit? low with
    | some high, some low => UInt8.ofNat (16 * high + low) :: decode rest
    | _, _ => 37 :: decode (high :: low :: rest)
  | c :: rest => String.utf8EncodeChar c ++ decode rest
  | [] => []

/-- The text of some bytes, if they are its UTF-8 form. -/
def utf8? (bytes : List UInt8) : Option String := String.fromUTF8? ⟨bytes.toArray⟩

/-! ## Sets -/

/-- No character beside the controls. -/
def controls : Char → Bool := fun _ => false

/-- The characters written by their bytes in a fragment. -/
def inFragment (c : Char) : Bool := [' ', '"', '<', '>', Char.ofNat 96].contains c

/-- The characters written by their bytes in a query. -/
def inQuery (c : Char) : Bool := [' ', '"', '#', '<', '>'].contains c

/-- The characters written by their bytes in the query of a special scheme. -/
def inSpecialQuery (c : Char) : Bool := inQuery c || c == '\''

/-- The characters written by their bytes in a path. -/
def inPath (c : Char) : Bool := inFragment c || ['#', '?', '{', '}'].contains c

/-- The characters written by their bytes in a user name or a password. -/
def inUserinfo (c : Char) : Bool :=
  inPath c || ['/', ':', ';', '=', '@', '[', '\\', ']', '^', '|'].contains c

end CompletionCache.Percent
