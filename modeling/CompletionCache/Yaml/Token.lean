import CompletionCache.Url.Percent
import CompletionCache.Yaml.Scalar

/-!
# Tokens of a YAML text

`Token.scan` cuts a text into tokens. Block structure shows in the indentation, so the scanner opens
and closes blocks as the columns of the tokens rise and fall. Whether a value is the key of a
mapping shows only at the colon behind it: the scanner remembers where such a key may have started
and puts its token in there afterwards. A key without a mark of its own has to lie in one line and
within 1024 characters.
-/

set_option autoImplicit false

namespace CompletionCache.Yaml

/-- A token. -/
inductive Token where
  | streamEnd
  | versionDirective (major minor : Nat)
  | tagDirective (handle lead : List Char)
  | documentStart
  | documentEnd
  | blockSequenceStart
  | blockMappingStart
  | blockEnd
  | flowSequenceStart
  | flowSequenceEnd
  | flowMappingStart
  | flowMappingEnd
  | blockEntry
  | flowEntry
  | key
  | value
  | reference (name : List Char)
  | anchor (name : List Char)
  | tag (handle suffix : List Char)
  | scalar (text : List Char) (style : Style)
  deriving DecidableEq

/-- Where a key without a mark of its own may have started: its place in the text and among the
tokens. A required key stands where only a key can stand. -/
structure PossibleKey where
  position : Nat
  index : Nat
  line : Nat
  column : Nat
  isRequired : Bool

/-- The state of the scanner. The lists of `keys` and `indents` have the innermost level in front;
there is one possible key for each level of brackets and one for the text around them. -/
structure Scanner where
  cursor : Cursor
  flowLevel : Nat
  indent : Int
  indents : List Int
  keyAllowed : Bool
  keys : List (Option PossibleKey)
  tokens : Array Token

namespace Scanner

/-- The state in front of a text. -/
def start (text : List Char) : Scanner := ⟨.start text, 0, -1, [], true, [none], #[]⟩

/-- Whether the scanner is inside brackets. -/
def inFlow (s : Scanner) : Bool := s.flowLevel != 0

/-- The state with one more token. -/
def push (s : Scanner) (token : Token) : Scanner := { s with tokens := s.tokens.push token }

/-- The state with a token put in at a position among the tokens. -/
def insertAt (s : Scanner) (position : Nat) (token : Token) : Scanner :=
  let tokens := s.tokens.toList
  { s with tokens := (tokens.take position ++ token :: tokens.drop position).toArray }

/-! ## Possible keys -/

/-- Gives up the possible key of this level, unless it is required. -/
def dropKey (s : Scanner) : Except Fault Scanner :=
  match s.keys with
  | some key :: rest =>
    if key.isRequired then .error .layout else .ok { s with keys := none :: rest }
  | _ => .ok s

/-- Remembers that a key may start here, if one is allowed here. -/
def saveKey (s : Scanner) : Except Fault Scanner := do
  if s.keyAllowed then
    let s ← s.dropKey
    let key : PossibleKey := ⟨s.tokens.size, s.cursor.index, s.cursor.line, s.cursor.column,
      !s.inFlow && s.indent == s.cursor.column⟩
    return { s with keys := some key :: s.keys.drop 1 }
  else return s

/-- The possible key of this level, if it still may be one: not when it started in another line or
too far back. -/
def currentKey (s : Scanner) : Except Fault (Option PossibleKey) :=
  match s.keys with
  | some key :: _ =>
    if key.line < s.cursor.line ∨ key.index + 1024 < s.cursor.index then
      if key.isRequired then .error .layout else .ok none
    else .ok (some key)
  | _ => .ok none

/-! ## Blocks -/

/-- Opens a block at a column that lies deeper than the present one; its token goes to a position
among the tokens, or behind them. -/
def openBlock (s : Scanner) (column : Nat) (position : Option Nat) (token : Token) : Scanner :=
  if !s.inFlow && decide (s.indent < column) then
    let s := { s with indents := s.indent :: s.indents, indent := column }
    match position with
    | some position => s.insertAt position token
    | none => s.push token
  else s

/-- Closes one block for each of the remembered columns that is needed to come down to a column. -/
def closeLevels (column : Int) : (indents : List Int) → Scanner → Scanner
  | [], s => s
  | outer :: rest, s =>
    if column < s.indent then
      closeLevels column rest { s.push .blockEnd with indent := outer, indents := rest }
    else s

/-- Closes the blocks that lie deeper than a column. -/
def closeBlocks (s : Scanner) (column : Int) : Scanner :=
  if s.inFlow then s else closeLevels column s.indents s

/-- Skips some characters, which are a token. -/
def take (s : Scanner) (count : Nat) (token : Token) : Scanner :=
  { s with cursor := s.cursor.skip count }.push token

/-! ## Between the tokens -/

/-- Skips white space and comments. A tab counts as white space only where no key may start. -/
def skipGap : (fuel : Nat) → Scanner → Scanner
  | 0, s => s
  | fuel + 1, s =>
    let cursor := if s.cursor.index = 0 ∧ s.cursor.rest.head? = some '\ufeff' then s.cursor.skip 1
      else s.cursor
    let tabs := s.inFlow || !s.keyAllowed
    let cursor := (cursor.skipWhile fun c => c == ' ' || (tabs && c == '\t')).skipComment
    if cursor.rest.head?.any isBreak then
      skipGap fuel { s with cursor := cursor.skipBreak.2, keyAllowed := s.keyAllowed || !s.inFlow }
    else { s with cursor }

/-! ## Directives -/

/-- The number in front, of at most nine digits, and what follows it. -/
def versionNumber (text : List Char) : Except Fault (Nat × List Char) :=
  let digits := text.takeWhile Char.isDigit
  if digits.isEmpty ∨ 9 < digits.length then .error .token
  else .ok (Positional.decimal digits, text.drop digits.length)

/-- The handle in front and its length: an exclamation mark, and then characters of words with a
second one behind them, or else nothing that counts. -/
def tagHandle (isDirective : Bool) : List Char → Except Fault (List Char)
  | '!' :: rest =>
    let word := rest.takeWhile isWord
    if (rest.drop word.length).head? = some '!' then .ok ('!' :: word ++ ['!'])
    else if isDirective ∧ !word.isEmpty then .error .token
    else .ok ('!' :: word)
  | _ => .error .token

/-- Whether a character may stand in the name of a tag. -/
def isTagChar (withBrackets : Bool) (c : Char) : Bool :=
  isWord c || [';', '/', '?', ':', '@', '&', '=', '+', '$', '.', '%', '!', '~', '*', '\'', '(',
    ')'].contains c || (withBrackets && [',', '[', ']'].contains c)

/-- How many bytes a character with this first byte takes, if it can be one. -/
def utf8Width? (byte : Nat) : Option Nat :=
  if byte < 0x80 then some 1
  else if byte / 0x20 = 6 then some 2
  else if byte / 0x10 = 14 then some 3
  else if byte / 8 = 30 then some 4
  else none

/-- Whether the percent escapes of a tag name write whole characters; `missing` further bytes belong
to the character that has begun. -/
def escapesComplete : (missing : Nat) → List Char → Bool
  | missing, '%' :: high :: low :: rest =>
    match Positional.number? 16 [high, low] with
    | none => false
    | some byte =>
      match missing with
      | 0 =>
        match utf8Width? byte with
        | some width => escapesComplete (width - 1) rest
        | none => false
      | missing + 1 => byte / 0x40 == 2 && escapesComplete missing rest
  | _, ['%'] => false
  | _, ['%', _] => false
  | 0, _ :: rest => escapesComplete 0 rest
  | _ + 1, _ :: _ => false
  | missing, [] => missing == 0

/-- The name of a tag in front, as it is written. -/
def tagName (withBrackets : Bool) (text : List Char) : Except Fault (List Char) :=
  let name := text.takeWhile (isTagChar withBrackets)
  if escapesComplete 0 name then .ok name else .error .token

/-- The characters that a tag name stands for. -/
def tagMeaning (name : List Char) : List Char :=
  match Percent.utf8? (Percent.decode name) with
  | some text => text.toList
  | none => name

/-- Reads a directive and the rest of its line. -/
def readDirective (cursor : Cursor) : Except Fault (Token × Cursor) := do
  let cursor := cursor.skip 1
  let name := cursor.rest.takeWhile isWord
  let cursor := cursor.skip name.length
  if name.isEmpty ∨ !atGap cursor.rest then throw .token
  let cursor := cursor.skipWhile isBlank
  let (token, cursor) ←
    if name = "YAML".toList then do
      let (major, rest) ← versionNumber cursor.rest
      if rest.head? ≠ some '.' then throw .token
      let (minor, rest) ← versionNumber (rest.drop 1)
      pure (Token.versionDirective major minor, cursor.skip (cursor.rest.length - rest.length))
    else if name = "TAG".toList then do
      let handle ← tagHandle true cursor.rest
      let cursor := cursor.skip handle.length
      if !(cursor.rest.head?.any isBlank) then throw .token
      let cursor := cursor.skipWhile isBlank
      let lead ← tagName true cursor.rest
      let cursor := cursor.skip lead.length
      if lead.isEmpty ∨ !atGap cursor.rest then throw .token
      pure (Token.tagDirective handle (tagMeaning lead), cursor)
    else throw .token
  let cursor := (cursor.skipWhile isBlank).skipComment
  if !atLineEnd cursor.rest then throw .token
  return (token, cursor.skipBreak.2)

/-! ## Names -/

/-- Reads the name of an anchor or an alias behind its mark. -/
def readName (cursor : Cursor) : Except Fault (List Char × Cursor) :=
  let cursor := cursor.skip 1
  let name := cursor.rest.takeWhile isWord
  let cursor := cursor.skip name.length
  if name.isEmpty ∨ !(atGap cursor.rest ||
      cursor.rest.head?.any ['?', ':', ',', ']', '}', '%', '@', Char.ofNat 96].contains) then
    .error .token
  else .ok (name, cursor)

/-- Reads a tag. -/
def readTag (inFlow : Bool) (cursor : Cursor) : Except Fault (Token × Cursor) := do
  let (token, cursor) ←
    if cursor.rest.take 2 = ['!', '<'] then do
      let name ← tagName true (cursor.rest.drop 2)
      let cursor := cursor.skip (2 + name.length)
      if name.isEmpty ∨ cursor.rest.head? ≠ some '>' then throw .token
      pure (Token.tag [] (tagMeaning name), cursor.skip 1)
    else do
      let handle ← tagHandle false cursor.rest
      let cursor := cursor.skip handle.length
      let suffix ← tagName false cursor.rest
      let rest := cursor.skip suffix.length
      if 1 < handle.length ∧ handle.getLast? = some '!' then
        if suffix.isEmpty then throw .token
        pure (Token.tag handle (tagMeaning suffix), rest)
      else
        let suffix := handle.drop 1 ++ tagMeaning suffix
        pure (if suffix.isEmpty then Token.tag [] ['!'] else Token.tag ['!'] suffix, rest)
  if (inFlow && cursor.rest.head? == some ',') || atGap cursor.rest then return (token, cursor)
  throw .token

/-! ## Tokens -/

/-- Reads a mark that opens brackets. -/
def openBrackets (s : Scanner) (token : Token) : Except Fault Scanner := do
  let s ← s.saveKey
  return { s with flowLevel := s.flowLevel + 1, keys := none :: s.keys, keyAllowed := true }.take 1
    token

/-- Reads a mark that closes brackets. -/
def closeBrackets (s : Scanner) (token : Token) : Except Fault Scanner := do
  let s ← s.dropKey
  let s := if s.inFlow then { s with flowLevel := s.flowLevel - 1, keys := s.keys.drop 1 } else s
  return { s with keyAllowed := false }.take 1 token

/-- Reads the dash of an entry. -/
def readEntry (s : Scanner) : Except Fault Scanner := do
  if !s.inFlow && !s.keyAllowed then throw .layout
  let s ← (s.openBlock s.cursor.column none .blockSequenceStart).dropKey
  return { s with keyAllowed := true }.take 1 .blockEntry

/-- Reads the mark of a key. -/
def readKey (s : Scanner) : Except Fault Scanner := do
  if !s.inFlow && !s.keyAllowed then throw .layout
  let s ← (s.openBlock s.cursor.column none .blockMappingStart).dropKey
  return { s with keyAllowed := !s.inFlow }.take 1 .key

/-- Reads the colon in front of a value. If a key may have started in this line, it did. -/
def readValue (s : Scanner) : Except Fault Scanner := do
  match ← s.currentKey with
  | some key =>
    let s := (s.insertAt key.position .key).openBlock key.column (some key.position)
      .blockMappingStart
    return { s with keys := none :: s.keys.drop 1, keyAllowed := false }.take 1 .value
  | none =>
    if !s.inFlow && !s.keyAllowed then throw .layout
    let s := s.openBlock s.cursor.column none .blockMappingStart
    return { s with keys := none :: s.keys.drop 1, keyAllowed := !s.inFlow }.take 1 .value

/-- Reads a token at which a key may start. -/
def readKeyed (s : Scanner) (read : Cursor → Except Fault (Token × Bool × Cursor)) :
    Except Fault Scanner := do
  let s ← s.saveKey
  let (token, keyAllowed, cursor) ← read s.cursor
  return { s with cursor, keyAllowed }.push token

/-- Reads a block scalar. -/
def readBlockScalar (s : Scanner) (style : Style) : Except Fault Scanner := do
  let s ← s.dropKey
  let (text, cursor) ← readBlock (style == .folded) s.indent (s.cursor.skip 1)
  return { s with cursor, keyAllowed := true }.push (.scalar text style)

/-- Reads a quoted scalar. -/
def readQuotedScalar (s : Scanner) (style : Style) : Except Fault Scanner :=
  s.readKeyed fun cursor => do
    let (text, cursor) ← readQuoted (style == .singleQuoted) (cursor.rest.length + 1) []
      (cursor.skip 1)
    return (.scalar text style, false, cursor)

/-- Reads a plain scalar. -/
def readPlainScalar (s : Scanner) : Except Fault Scanner :=
  s.readKeyed fun cursor => do
    let (text, broken, cursor) ← readPlain s.inFlow (s.indent + 1) (cursor.rest.length + 1) []
      Gap.empty cursor
    return (.scalar text .plain, broken, cursor)

/-- The characters with which no plain scalar starts. -/
def isIndicator (c : Char) : Bool :=
  ['-', '?', ':', ',', '[', ']', '{', '}', '#', '&', '*', '!', '|', '>', '\'', '"', '%', '@',
    Char.ofNat 96].contains c

/-- Whether a plain scalar starts here. -/
def startsPlain (inFlow : Bool) : List Char → Bool
  | [] => false
  | c :: rest =>
    (!isIndicator c && !isBlank c && !isBreak c) ||
      (c == '-' && !rest.head?.any isBlank) ||
      (!inFlow && (c == '?' || c == ':') && !atGap rest)

/-- Closes all blocks and reads a token that stands between documents. -/
def betweenDocuments (s : Scanner) : Except Fault Scanner := do
  let s ← (s.closeBlocks (-1)).dropKey
  return { s with keyAllowed := false }

/-- Reads the next token; the text must not be at its end. -/
def readToken (s : Scanner) : Except Fault Scanner := do
  let s := s.closeBlocks s.cursor.column
  if s.cursor.column = 0 ∧ s.cursor.rest.head? = some '%' then
    let s ← s.betweenDocuments
    let (token, cursor) ← readDirective s.cursor
    return { s with cursor }.push token
  if s.cursor.atDocumentMark then
    let s ← s.betweenDocuments
    return s.take 3 (if s.cursor.rest.head? = some '-' then .documentStart else .documentEnd)
  match s.cursor.rest with
  | '[' :: _ => s.openBrackets .flowSequenceStart
  | '{' :: _ => s.openBrackets .flowMappingStart
  | ']' :: _ => s.closeBrackets .flowSequenceEnd
  | '}' :: _ => s.closeBrackets .flowMappingEnd
  | ',' :: _ => do
    let s ← s.dropKey
    return { s with keyAllowed := true }.take 1 .flowEntry
  | '*' :: _ => s.readKeyed fun cursor => do
      let (name, cursor) ← readName cursor
      return (.reference name, false, cursor)
  | '&' :: _ => s.readKeyed fun cursor => do
      let (name, cursor) ← readName cursor
      return (.anchor name, false, cursor)
  | '!' :: _ => s.readKeyed fun cursor => do
      let (token, cursor) ← readTag s.inFlow cursor
      return (token, false, cursor)
  | '\'' :: _ => s.readQuotedScalar .singleQuoted
  | '"' :: _ => s.readQuotedScalar .doubleQuoted
  | c :: rest =>
    if c = '-' ∧ atGap rest then s.readEntry
    else if c = '?' ∧ (s.inFlow ∨ atGap rest) then s.readKey
    else if c = ':' ∧ (s.inFlow ∨ atGap rest) then s.readValue
    else if c = '|' ∧ !s.inFlow then s.readBlockScalar .literal
    else if c = '>' ∧ !s.inFlow then s.readBlockScalar .folded
    else if startsPlain s.inFlow (c :: rest) then s.readPlainScalar
    else throw .token
  | [] => throw .token

/-- Reads all tokens. Each takes at least one character, so the length of the text is fuel
enough. -/
def readAll : (fuel : Nat) → Scanner → Except Fault Scanner
  | 0, _ => .error .token
  | fuel + 1, s => do
    let s := skipGap (s.cursor.rest.length + 1) s
    if s.cursor.rest.isEmpty then
      return (← s.betweenDocuments).push .streamEnd
    readAll fuel (← s.readToken)

end Scanner

/-- The tokens of a text. -/
def Token.scan (text : List Char) : Except Fault (List Token) := do
  if !text.all isAllowed then throw .character
  return (← Scanner.readAll (text.length + 1) (.start text)).tokens.toList

end CompletionCache.Yaml
