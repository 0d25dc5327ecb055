import CompletionCache.Positional
import CompletionCache.Yaml.Cursor

/-!
# Scalars of a YAML text

How the text of a scalar is read from its four written forms. A plain scalar and a quoted one may go
on over several lines: a single break between two lines becomes a space, of several breaks the first
is dropped. A block scalar keeps its lines, or folds them in the same way, and its header says what
becomes of the breaks at its end.
-/

set_option autoImplicit false

namespace CompletionCache.Yaml

/-- How a scalar is written. -/
inductive Style where
  | plain
  | singleQuoted
  | doubleQuoted
  | literal
  | folded
  deriving DecidableEq

/-- The white space between two parts of a scalar: blanks inside a line, or breaks. -/
structure Gap where
  blanks : List Char
  firstBreak : List Char
  moreBreaks : List Char
  isBroken : Bool

namespace Gap

/-- No white space. -/
def empty : Gap := ⟨[], [], [], false⟩

/-- The gap behind an escaped break. -/
def escaped : Gap := { empty with isBroken := true }

/-- The text that the gap stands for. -/
def text (gap : Gap) : List Char :=
  if gap.isBroken then
    if gap.firstBreak = ['\n'] then if gap.moreBreaks.isEmpty then [' '] else gap.moreBreaks
    else gap.firstBreak ++ gap.moreBreaks
  else gap.blanks

/-- Reads on over white space; in front of `indent`, a tab behind a break is refused. -/
def read (indent : Int) : (fuel : Nat) → Gap → Cursor → Except Fault (Gap × Cursor)
  | 0, gap, cursor => .ok (gap, cursor)
  | fuel + 1, gap, cursor =>
    match cursor.rest with
    | [] => .ok (gap, cursor)
    | c :: _ =>
      if isBlank c then
        if gap.isBroken then
          if c = '\t' ∧ (cursor.column : Int) < indent then .error .layout
          else read indent fuel gap (cursor.skip 1)
        else read indent fuel { gap with blanks := gap.blanks ++ [c] } (cursor.skip 1)
      else if isBreak c then
        let (written, next) := cursor.skipBreak
        if gap.isBroken then
          read indent fuel { gap with moreBreaks := gap.moreBreaks ++ written } next
        else read indent fuel ⟨[], written, [], true⟩ next
      else .ok (gap, cursor)

end Gap

/-! ## Plain scalars -/

/-- The characters that end a plain scalar inside brackets. -/
def isFlowMark (c : Char) : Bool := [',', '[', ']', '{', '}'].contains c

/-- The characters of a plain scalar up to white space or its end. A colon in front of white space
ends it; inside brackets so does a mark, and a colon in front of one is a fault. -/
def plainWord (inFlow : Bool) : List Char → Except Fault (List Char)
  | [] => .ok []
  | c :: rest =>
    if isBlank c || isBreak c then .ok []
    else if inFlow && c == ':' && rest.head?.any (fun d => isFlowMark d || d == '?') then
      .error .token
    else if (c == ':' && atGap rest) || (inFlow && isFlowMark c) then .ok []
    else (c :: ·) <$> plainWord inFlow rest

/-- Reads a plain scalar; `text` holds what has been read, `gap` the white space behind it. Says
whether the scalar was followed by a break. -/
def readPlain (inFlow : Bool) (indent : Int) :
    (fuel : Nat) → (text : List Char) → Gap → Cursor → Except Fault (List Char × Bool × Cursor)
  | 0, text, gap, cursor => .ok (text, gap.isBroken, cursor)
  | fuel + 1, text, gap, cursor => do
    if cursor.atDocumentMark || cursor.rest.head? == some '#' then
      return (text, gap.isBroken, cursor)
    let word ← plainWord inFlow cursor.rest
    let (text, gap) := if word.isEmpty then (text, gap) else (text ++ gap.text ++ word, Gap.empty)
    let cursor := cursor.skip word.length
    if !(cursor.rest.head?.any fun c => isBlank c || isBreak c) then
      return (text, gap.isBroken, cursor)
    let (gap, cursor) ← gap.read indent cursor.rest.length cursor
    if !inFlow && decide ((cursor.column : Int) < indent) then return (text, gap.isBroken, cursor)
    readPlain inFlow indent fuel text gap cursor

/-! ## Quoted scalars -/

/-- The character behind a backslash, for the escapes of two characters. -/
def escape? : Char → Option Char
  | '0' => some '\x00'
  | 'a' => some '\x07'
  | 'b' => some '\x08'
  | 't' => some '\t'
  | '\t' => some '\t'
  | 'n' => some '\n'
  | 'v' => some '\x0b'
  | 'f' => some '\x0c'
  | 'r' => some '\r'
  | 'e' => some '\x1b'
  | ' ' => some ' '
  | '"' => some '"'
  | '/' => some '/'
  | '\\' => some '\\'
  | 'N' => some '\u0085'
  | '_' => some '\u00a0'
  | 'L' => some '\u2028'
  | 'P' => some '\u2029'
  | _ => none

/-- How many hexadecimal digits follow the letter of a numeric escape. -/
def escapeDigits? : Char → Option Nat
  | 'x' => some 2
  | 'u' => some 4
  | 'U' => some 8
  | _ => none

/-- The character of a numeric escape of `count` digits. -/
def numericEscape? (count : Nat) (text : List Char) : Option Char := do
  let digits := text.take count
  let value ← Positional.number? 16 digits
  if digits.length = count ∧ (value < 0xD800 ∨ (0xDFFF < value ∧ value ≤ 0x10FFFF)) then
    some (Char.ofNat value)
  else none

/-- A part of a quoted scalar up to white space or its closing quote, with the count of characters
that it takes, and whether an escaped break follows; `skip` characters belong to an escape that has
been read. -/
def quotedWord (single : Bool) :
    (skip : Nat) → List Char → Except Fault (List Char × Nat × Bool)
  | _, [] => .ok ([], 0, false)
  | skip + 1, _ :: rest => do
    let (word, count, broken) ← quotedWord single skip rest
    return (word, count + 1, broken)
  | 0, c :: rest =>
    let more (first : Char) (length : Nat) : Except Fault (List Char × Nat × Bool) := do
      let (word, count, broken) ← quotedWord single length rest
      return (first :: word, count + 1, broken)
    if isBlank c || isBreak c then .ok ([], 0, false)
    else if single then
      if c = '\'' then if rest.head? = some '\'' then more '\'' 1 else .ok ([], 0, false)
      else more c 0
    else if c = '"' then .ok ([], 0, false)
    else if c = '\\' then
      match rest with
      | [] => .error .token
      | mark :: digits =>
        if isBreak mark then .ok ([], 1, true)
        else
          match escape? mark, escapeDigits? mark with
          | some meant, _ => more meant 1
          | none, some count =>
            match numericEscape? count digits with
            | some meant => more meant (count + 1)
            | none => .error .token
          | none, none => .error .token
    else more c 0

/-- Reads a quoted scalar behind its opening quote; `text` holds what has been read. -/
def readQuoted (single : Bool) :
    (fuel : Nat) → (text : List Char) → Cursor → Except Fault (List Char × Cursor)
  | 0, _, _ => .error .token
  | fuel + 1, text, cursor => do
    if cursor.atDocumentMark then throw .layout
    let (word, count, broken) ← quotedWord single 0 cursor.rest
    let text := text ++ word
    let cursor := cursor.skip count
    match cursor.rest with
    | [] => throw .token
    | c :: _ =>
      if !broken && c == (if single then '\'' else '"') then return (text, cursor.skip 1)
      let (start, cursor) :=
        if broken then (Gap.escaped, cursor.skipBreak.2) else (Gap.empty, cursor)
      let (gap, cursor) ← start.read 0 cursor.rest.length cursor
      readQuoted single fuel (text ++ gap.text) cursor

/-! ## Block scalars -/

/-- What becomes of the breaks at the end of a block scalar. -/
inductive Chomping where
  | strip
  | clip
  | keep
  deriving DecidableEq

/-- The meaning of a chomping indicator. -/
def chomping? : Char → Option Chomping
  | '+' => some .keep
  | '-' => some .strip
  | _ => none

/-- The header of a block scalar behind its indicator: the chomping and the extra indentation, in
either order, and the count of characters that they take. -/
def blockHeader : List Char → Except Fault (Chomping × Nat × Nat)
  | a :: rest =>
    let b := rest.headD ' '
    let size (c : Char) : Nat := c.toNat - 48
    match chomping? a with
    | some chomping =>
      if b = '0' then .error .token
      else if b.isDigit then .ok (chomping, size b, 2)
      else .ok (chomping, 0, 1)
    | none =>
      if a = '0' then .error .token
      else if a.isDigit then
        match chomping? b with
        | some chomping => .ok (chomping, size a, 2)
        | none => .ok (.clip, size a, 1)
      else .ok (.clip, 0, 0)
  | [] => .ok (.clip, 0, 0)

/-- Reads the indentation and the empty lines in front of a line of a block scalar. While the
indentation is not known it is zero, and `widest` is the widest one seen. -/
def blockBreaks (indent : Nat) :
    (fuel : Nat) → (widest : Nat) → (breaks : List Char) → Cursor →
      Except Fault (Nat × List Char × Cursor)
  | 0, widest, breaks, cursor => .ok (widest, breaks, cursor)
  | fuel + 1, widest, breaks, cursor =>
    let spaces := (cursor.rest.takeWhile (· == ' ')).length
    let cursor := cursor.skip (if indent = 0 then spaces else min spaces (indent - cursor.column))
    let widest := max widest cursor.column
    match cursor.rest with
    | '\t' :: _ =>
      if indent = 0 ∨ cursor.column < indent then .error .layout else .ok (widest, breaks, cursor)
    | c :: _ =>
      if isBreak c then
        let (written, cursor) := cursor.skipBreak
        blockBreaks indent fuel widest (breaks ++ written) cursor
      else .ok (widest, breaks, cursor)
    | [] => .ok (widest, breaks, cursor)

/-- The lines of a block scalar that have been read. -/
structure BlockLines where
  text : List Char
  lastBreak : List Char
  moreBreaks : List Char
  startsBlank : Bool

/-- Reads the lines of a block scalar with a known indentation. -/
def blockLines (folds : Bool) (indent : Nat) :
    (fuel : Nat) → BlockLines → Cursor → Except Fault (BlockLines × Cursor)
  | 0, lines, cursor => .ok (lines, cursor)
  | fuel + 1, lines, cursor => do
    if cursor.column ≠ indent ∨ cursor.rest.isEmpty then return (lines, cursor)
    let blank := cursor.rest.head?.any isBlank
    let joint :=
      if folds && lines.lastBreak == ['\n'] && !lines.startsBlank && !blank then
        if lines.moreBreaks.isEmpty then [' '] else []
      else lines.lastBreak
    let line := cursor.rest.takeWhile fun c => !isBreak c
    let (lastBreak, cursor) := (cursor.skip line.length).skipBreak
    let (_, breaks, cursor) ← blockBreaks indent (cursor.rest.length + 1) 0 [] cursor
    blockLines folds indent fuel
      ⟨lines.text ++ joint ++ lines.moreBreaks ++ line, lastBreak, breaks, blank⟩ cursor

/-- Reads a block scalar behind its indicator, inside a block of the given indentation. -/
def readBlock (folds : Bool) (parent : Int) (cursor : Cursor) :
    Except Fault (List Char × Cursor) := do
  let (chomping, extra, count) ← blockHeader cursor.rest
  let cursor := ((cursor.skip count).skipWhile isBlank).skipComment
  if !atLineEnd cursor.rest then throw .token
  let cursor := cursor.skipBreak.2
  let given : Nat := if extra = 0 then 0 else if 0 ≤ parent then parent.toNat + extra else extra
  let (widest, breaks, cursor) ← blockBreaks given (cursor.rest.length + 1) 0 [] cursor
  let indent := if given = 0 then max (max widest (parent + 1).toNat) 1 else given
  let (lines, cursor) ←
    blockLines folds indent (cursor.rest.length + 1) ⟨[], [], breaks, false⟩ cursor
  let tail := match chomping with
    | .strip => []
    | .clip => lines.lastBreak
    | .keep => lines.lastBreak ++ lines.moreBreaks
  return (lines.text ++ tail, cursor)

end CompletionCache.Yaml
