/-!
# Places in a YAML text

The classes of characters that YAML tells apart, and a `Cursor`: what remains of the text, with the
count of characters before it, its line and its column. A line ends at any of five breaks; a
carriage return with a line feed behind it is one break.
-/

set_option autoImplicit false

namespace CompletionCache.Yaml

/-- What is wrong with a YAML text. -/
inductive Fault where
  /-- A character that no text may hold. -/
  | character
  /-- No token starts here, or one is not completed. -/
  | token
  /-- A token stands where its indentation or its line does not allow it. -/
  | layout
  /-- The tokens do not form a document. -/
  | grammar
  /-- An alias without an anchor, or a tag without a handle. -/
  | undefinedName
  /-- More than one document. -/
  | severalDocuments
  /-- The document nests or repeats too much. -/
  | tooLarge
  /-- A value of the wrong kind. -/
  | shape
  deriving DecidableEq

/-! ## Characters -/

/-- Whether a text may hold a character. -/
def isAllowed (c : Char) : Bool :=
  let n := c.toNat
  n == 0x9 || n == 0xA || n == 0xD || decide (0x20 ≤ n ∧ n ≤ 0x7E) || n == 0x85 ||
    decide (0xA0 ≤ n ∧ n ≤ 0xD7FF) || decide (0xE000 ≤ n ∧ n ≤ 0xFFFD) || decide (0x10000 ≤ n)

/-- Whether a character ends a line. -/
def isBreak (c : Char) : Bool :=
  c == '\r' || c == '\n' || c == '\u0085' || c == '\u2028' || c == '\u2029'

/-- Whether a character is a space or a tab. -/
def isBlank (c : Char) : Bool := c == ' ' || c == '\t'

/-- Whether a character may stand in the name of an anchor, a handle or a directive. -/
def isWord (c : Char) : Bool := c.isAlphanum || c == '_' || c == '-'

/-- Whether a blank, a break or the end comes next. -/
def atGap : List Char → Bool
  | [] => true
  | c :: _ => isBlank c || isBreak c

/-- Whether a break or the end comes next. -/
def atLineEnd : List Char → Bool
  | [] => true
  | c :: _ => isBreak c

/-- Whether the mark between documents comes next. -/
def atDocumentMark : List Char → Bool
  | '-' :: '-' :: '-' :: rest => atGap rest
  | '.' :: '.' :: '.' :: rest => atGap rest
  | _ => false

/-! ## Cursors -/

/-- A place in a text. -/
structure Cursor where
  rest : List Char
  index : Nat
  line : Nat
  column : Nat

namespace Cursor

/-- The start of a text. -/
def start (text : List Char) : Cursor := ⟨text, 0, 0, 0⟩

/-- The place `count` characters on, in the same line. -/
def skip (cursor : Cursor) (count : Nat) : Cursor :=
  let count := min count cursor.rest.length
  { cursor with
    rest := cursor.rest.drop count
    index := cursor.index + count
    column := cursor.column + count }

/-- The place behind the characters in front that satisfy a condition, in the same line. -/
def skipWhile (cursor : Cursor) (holds : Char → Bool) : Cursor :=
  cursor.skip (cursor.rest.takeWhile holds).length

/-- The place behind the break in front, if there is one, and the break: the three plain ones are
all written as a line feed. -/
def skipBreak (cursor : Cursor) : List Char × Cursor :=
  match cursor.rest with
  | '\r' :: '\n' :: rest => (['\n'], ⟨rest, cursor.index + 2, cursor.line + 1, 0⟩)
  | c :: rest =>
    if isBreak c then
      ([if c = '\u2028' ∨ c = '\u2029' then c else '\n'],
        ⟨rest, cursor.index + 1, cursor.line + 1, 0⟩)
    else ([], cursor)
  | [] => ([], cursor)

/-- The place at the end of the line when a comment comes next, else the same place. -/
def skipComment (cursor : Cursor) : Cursor :=
  if cursor.rest.head? = some '#' then cursor.skipWhile fun c => !isBreak c else cursor

/-- Whether a mark between documents comes next. -/
def atDocumentMark (cursor : Cursor) : Bool :=
  cursor.column == 0 && Yaml.atDocumentMark cursor.rest

end Cursor

end CompletionCache.Yaml
