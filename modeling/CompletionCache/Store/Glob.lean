/-!
# Patterns for keys

A pattern is cut into pieces: a star matches any text, a question mark any one character, brackets
one character of a class, and everything else itself; a backslash takes the meaning from the
character behind it. `Glob.escape` writes a text as a pattern that matches only it.
-/

set_option autoImplicit false

namespace CompletionCache.Glob

/-- A range of characters, in either order. -/
structure Range where
  first : Char
  last : Char
  deriving DecidableEq

/-- Whether a character lies in a range. -/
def Range.contains (range : Range) (c : Char) : Bool :=
  decide (min range.first.toNat range.last.toNat ≤ c.toNat ∧
    c.toNat ≤ max range.first.toNat range.last.toNat)

/-- A piece of a pattern. -/
inductive Piece where
  | anyText
  | anyChar
  | oneOf (negated : Bool) (ranges : List Range)
  | exactly (c : Char)
  deriving DecidableEq

/-- A class behind its opening bracket: its ranges, and the pattern behind its closing bracket. One
without that bracket goes on to the end. -/
def classRanges : List Char → List Range × List Char
  | [] => ([], [])
  | ']' :: rest => ([], rest)
  | '\\' :: c :: rest =>
    let (ranges, rest) := classRanges rest
    (⟨c, c⟩ :: ranges, rest)
  | first :: '-' :: last :: rest =>
    let (ranges, rest) := classRanges rest
    (⟨first, last⟩ :: ranges, rest)
  | c :: rest =>
    let (ranges, rest) := classRanges rest
    (⟨c, c⟩ :: ranges, rest)

/-- Cuts a pattern into pieces, of which there are at most as many as characters. -/
def cut : (fuel : Nat) → List Char → List Piece
  | 0, _ => []
  | _, [] => []
  | fuel + 1, '*' :: rest => .anyText :: cut fuel rest
  | fuel + 1, '?' :: rest => .anyChar :: cut fuel rest
  | fuel + 1, '[' :: '^' :: rest =>
    let (ranges, rest) := classRanges rest
    .oneOf true ranges :: cut fuel rest
  | fuel + 1, '[' :: rest =>
    let (ranges, rest) := classRanges rest
    .oneOf false ranges :: cut fuel rest
  | fuel + 1, '\\' :: c :: rest => .exactly c :: cut fuel rest
  | fuel + 1, c :: rest => .exactly c :: cut fuel rest

/-- The pieces of a pattern. -/
def pieces (pattern : List Char) : List Piece := cut pattern.length pattern

/-- Whether a piece matches a character. -/
def Piece.accepts : Piece → Char → Bool
  | anyText, _ => true
  | anyChar, _ => true
  | oneOf negated ranges, c => ranges.any (Range.contains · c) != negated
  | exactly d, c => d == c

/-- Whether a condition holds of some end of a text. -/
def someEnd (holds : List Char → Bool) : List Char → Bool
  | [] => holds []
  | c :: rest => holds (c :: rest) || someEnd holds rest

/-- Whether pieces match the whole of a text. -/
def accepts : List Piece → List Char → Bool
  | [], text => text.isEmpty
  | .anyText :: rest, text => someEnd (accepts rest) text
  | _ :: _, [] => false
  | piece :: rest, c :: text => piece.accepts c && accepts rest text

/-- Whether a pattern matches the whole of a text. -/
def isMatch (pattern text : String) : Bool := accepts (pieces pattern.toList) text.toList

/-- Whether a character has a meaning of its own in a pattern. -/
def isSpecial (c : Char) : Bool := ['*', '?', '[', ']', '\\'].contains c

/-- A text as a pattern. -/
def escape (text : List Char) : List Char :=
  text.flatMap fun c => if isSpecial c then ['\\', c] else [c]

/-- The pattern that matches every text with the given one in front. -/
def startingWith (text : String) : String := String.ofList (escape text.toList ++ ['*'])

end CompletionCache.Glob
