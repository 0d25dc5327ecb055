import CompletionCache.Yaml.Token

/-!
# Nodes of a YAML document

`Document.read` builds the tree of nodes of the only document of a text. Anchored nodes carry a
number and aliases refer to it. The number of an anchor is the count of different names in front of
it, so an anchor may come to share its number with another one; an alias then means the last of
them.
-/

set_option autoImplicit false

namespace CompletionCache.Yaml

/-- The name of a tag. -/
abbrev Tag := List Char

/-- A node of a document. -/
inductive Node where
  | reference (anchor : Nat)
  | scalar (anchor : Option Nat) (tag : Option Tag) (text : List Char) (style : Style)
  | sequence (anchor : Option Nat) (tag : Option Tag) (items : List Node)
  | mapping (anchor : Option Nat) (tag : Option Tag) (entries : List (Node × Node))

namespace Node

/-- The node of a place where nothing is written. -/
def blank : Node := scalar none none [] .plain

mutual
/-- The events in which a node is written: two for a collection, one for anything else. -/
def size : Node → Nat
  | reference _ => 1
  | scalar _ _ _ _ => 1
  | sequence _ _ items => 2 + sizeItems items
  | mapping _ _ entries => 2 + sizeEntries entries

@[inherit_doc size]
def sizeItems : List Node → Nat
  | [] => 0
  | item :: rest => item.size + sizeItems rest

@[inherit_doc size]
def sizeEntries : List (Node × Node) → Nat
  | [] => 0
  | (key, value) :: rest => key.size + value.size + sizeEntries rest
end

/-- A node under its number, if it has an anchor. -/
def underAnchor (anchor : Option Nat) (node : Node) : List (Nat × Node) :=
  (anchor.map fun number => (number, node)).toList

mutual
/-- The anchored nodes under their numbers, in the order in which they begin. -/
def anchored : Node → List (Nat × Node)
  | reference _ => []
  | scalar anchor tag text style => underAnchor anchor (scalar anchor tag text style)
  | sequence anchor tag items =>
    underAnchor anchor (sequence anchor tag items) ++ anchoredItems items
  | mapping anchor tag entries =>
    underAnchor anchor (mapping anchor tag entries) ++ anchoredEntries entries

@[inherit_doc anchored]
def anchoredItems : List Node → List (Nat × Node)
  | [] => []
  | item :: rest => item.anchored ++ anchoredItems rest

@[inherit_doc anchored]
def anchoredEntries : List (Node × Node) → List (Nat × Node)
  | [] => []
  | (key, value) :: rest => key.anchored ++ value.anchored ++ anchoredEntries rest
end

end Node

/-! ## Reading -/

/-- What has not been read yet, and the numbers of the anchors that have been. -/
structure Progress where
  tokens : List Token
  anchors : List (List Char × Nat)

/-- A step of the reading of nodes. -/
abbrev Parse := StateT Progress (Except Fault)

namespace Parse

/-- The next token. -/
def peek : Parse Token := return (← get).tokens.headD .streamEnd

/-- Passes over the next token. -/
def skip : Parse Unit := modify fun s => { s with tokens := s.tokens.drop 1 }

/-- Passes over a token if it comes next, and says whether it did. -/
def skipIf (token : Token) : Parse Bool := do
  if (← peek) = token then
    skip
    return true
  else return false

/-- Numbers an anchor. -/
def define (name : List Char) : Parse Nat := do
  let anchors := (← get).anchors
  let number := anchors.length
  modify fun s =>
    { s with anchors := (name, number) :: anchors.filter fun anchor => anchor.1 ≠ name }
  return number

/-- The node of an alias. -/
def referenceNode (name : List Char) : Parse Node := do
  match (← get).anchors.lookup name with
  | some number => return .reference number
  | none => throw .undefinedName

/-- The whole name of a tag. -/
def tagName (handles : List (List Char × List Char)) (handle suffix : List Char) : Parse Tag :=
  if handle.isEmpty then return suffix
  else
    match handles.lookup handle with
    | some lead => return lead ++ suffix
    | none => throw .undefinedName

/-- The tag in front of a node. -/
def readTag (handles : List (List Char × List Char)) : Parse (Option Tag) := do
  match ← peek with
  | .tag handle suffix =>
    skip
    return some (← tagName handles handle suffix)
  | _ => return none

/-- The anchor in front of a node. -/
def readAnchor : Parse (Option (List Char)) := do
  match ← peek with
  | .anchor name =>
    skip
    return some name
  | _ => return none

/-- The anchor and the tag in front of a node, in either order. -/
def readProperties (handles : List (List Char × List Char)) :
    Parse (Option Nat × Option Tag) := do
  let early ← readAnchor
  let tag ← readTag handles
  let name ← if early.isNone ∧ tag.isSome then readAnchor else pure early
  return (← name.mapM define, tag)

/-- A node, unless one of the given tokens comes next: then nothing is written. -/
def readUnless (ends : List Token) (read : Parse Node) : Parse Node := do
  if ends.contains (← peek) then return .blank else read

/-- A value behind its mark; without the mark nothing is written. -/
def readValue (ends : List Token) (read : Parse Node) : Parse Node := do
  if ← skipIf .value then readUnless ends read else return .blank

/-- The tokens behind an empty entry of a sequence without a level of its own. -/
def entryEnds : List Token := [.blockEntry, .key, .value, .blockEnd]

/-- The tokens behind an empty key or value of a block. -/
def memberEnds : List Token := [.key, .value, .blockEnd]

mutual
/-- Reads a node. Block collections are read where `isBlock` says so; where `isIndentless` does, so
is a sequence whose dashes stand at the column of the keys around it. -/
def readNode (handles : List (List Char × List Char)) :
    (fuel : Nat) → (isBlock isIndentless : Bool) → Parse Node
  | 0, _, _ => throw .tooLarge
  | fuel + 1, isBlock, isIndentless => do
    if let .reference name := ← peek then
      skip
      return ← referenceNode name
    let (anchor, tag) ← readProperties handles
    let token ← peek
    if isIndentless && token == .blockEntry then
      return .sequence anchor tag (← readIndentless handles fuel)
    match token, isBlock with
    | .scalar text style, _ =>
      skip
      return .scalar anchor (tag.filter (· ≠ ['!'])) text style
    | .flowSequenceStart, _ =>
      skip
      return .sequence anchor tag (← readFlowSequence handles fuel true)
    | .flowMappingStart, _ =>
      skip
      return .mapping anchor tag (← readFlowMapping handles fuel true)
    | .blockSequenceStart, true =>
      skip
      return .sequence anchor tag (← readBlockSequence handles fuel)
    | .blockMappingStart, true =>
      skip
      return .mapping anchor tag (← readBlockMapping handles fuel)
    | _, _ =>
      if anchor.isNone ∧ tag.isNone then throw .grammar
      return .scalar anchor tag [] .plain

/-- Reads the entries of a block sequence up to its end. -/
def readBlockSequence (handles : List (List Char × List Char)) :
    (fuel : Nat) → Parse (List Node)
  | 0 => throw .tooLarge
  | fuel + 1 => do
    if ← skipIf .blockEnd then return []
    if !(← skipIf .blockEntry) then throw .grammar
    let item ← readUnless [.blockEntry, .blockEnd] (readNode handles fuel true false)
    return item :: (← readBlockSequence handles fuel)

/-- Reads the entries of a sequence that ends where another token than a dash comes. -/
def readIndentless (handles : List (List Char × List Char)) :
    (fuel : Nat) → Parse (List Node)
  | 0 => throw .tooLarge
  | fuel + 1 => do
    if !(← skipIf .blockEntry) then return []
    let item ← readUnless entryEnds (readNode handles fuel true false)
    return item :: (← readIndentless handles fuel)

/-- Reads the members of a block mapping up to its end. -/
def readBlockMapping (handles : List (List Char × List Char)) :
    (fuel : Nat) → Parse (List (Node × Node))
  | 0 => throw .tooLarge
  | fuel + 1 => do
    if ← skipIf .blockEnd then return []
    if !(← skipIf .key) then throw .grammar
    let key ← readUnless memberEnds (readNode handles fuel true true)
    let value ← readValue memberEnds (readNode handles fuel true true)
    return (key, value) :: (← readBlockMapping handles fuel)

/-- Reads the entries of a sequence in brackets up to its end. A key among them makes a mapping of
one member; where that key is missing, the token in its place is passed over. -/
def readFlowSequence (handles : List (List Char × List Char)) :
    (fuel : Nat) → (isFirst : Bool) → Parse (List Node)
  | 0, _ => throw .tooLarge
  | fuel + 1, isFirst => do
    if ← skipIf .flowSequenceEnd then return []
    if !isFirst then
      if !(← skipIf .flowEntry) then throw .grammar
      if ← skipIf .flowSequenceEnd then return []
    if ← skipIf .key then
      let isMissing := [.value, .flowEntry, .flowSequenceEnd].contains (← peek)
      let key ← if isMissing then do
          skip
          pure Node.blank
        else readNode handles fuel false false
      let value ← readValue [.flowEntry, .flowSequenceEnd] (readNode handles fuel false false)
      return .mapping none none [(key, value)] :: (← readFlowSequence handles fuel false)
    else
      let item ← readNode handles fuel false false
      return item :: (← readFlowSequence handles fuel false)

/-- Reads the members of a mapping in braces up to its end. A node without the mark of a key is a
key without a value. -/
def readFlowMapping (handles : List (List Char × List Char)) :
    (fuel : Nat) → (isFirst : Bool) → Parse (List (Node × Node))
  | 0, _ => throw .tooLarge
  | fuel + 1, isFirst => do
    if ← skipIf .flowMappingEnd then return []
    if !isFirst then
      if !(← skipIf .flowEntry) then throw .grammar
      if ← skipIf .flowMappingEnd then return []
    if ← skipIf .key then
      let key ← readUnless [.value, .flowEntry, .flowMappingEnd] (readNode handles fuel false false)
      let value ← readValue [.flowEntry, .flowMappingEnd] (readNode handles fuel false false)
      return (key, value) :: (← readFlowMapping handles fuel false)
    else
      let key ← readNode handles fuel false false
      return (key, .blank) :: (← readFlowMapping handles fuel false)
end

/-! ## Documents -/

/-- The handles that need no directive. -/
def defaultHandles : List (List Char × List Char) :=
  [(['!'], ['!']), (['!', '!'], "tag:yaml.org,2002:".toList)]

/-- Reads the directives in front of a document: at most one version, and no handle twice. -/
def readDirectives : (tokens : List Token) → (hasVersion : Bool) →
    (handles : List (List Char × List Char)) →
      Except Fault (List (List Char × List Char) × List Token)
  | .versionDirective major minor :: rest, hasVersion, handles =>
    if hasVersion ∨ major ≠ 1 ∨ (minor ≠ 1 ∧ minor ≠ 2) then .error .grammar
    else readDirectives rest true handles
  | .tagDirective handle lead :: rest, hasVersion, handles =>
    if (handles.lookup handle).isSome then .error .grammar
    else readDirectives rest hasVersion ((handle, lead) :: handles)
  | tokens, _, handles => .ok (handles, tokens)

/-- Whether nothing is written in a document that has been opened. -/
def endsDocument : Token → Bool
  | .versionDirective _ _ | .tagDirective _ _ => true
  | .documentStart | .documentEnd | .streamEnd => true
  | _ => false

/-- Reads the node of a document, and the ends behind it; no other document may follow. -/
def readRoot (handles : List (List Char × List Char)) (isOpened : Bool) (tokens : List Token) :
    Except Fault Node := do
  let fuel := 8 * (tokens.length + 1)
  let read : Parse Node := do
    if isOpened && endsDocument (← peek) then return .blank else readNode handles fuel true false
  let (node, progress) ← read.run ⟨tokens, []⟩
  if (progress.tokens.dropWhile (· == .documentEnd)).head? = some .streamEnd then return node
  throw .severalDocuments

end Parse

/-- The root of the only document of a text. An empty text is a document in which nothing is
written. -/
def Document.read (text : List Char) : Except Fault Node := do
  let tokens ← Token.scan text
  let (handles, rest) ← Parse.readDirectives tokens false []
  let handles := handles ++ Parse.defaultHandles
  match rest with
  | .documentStart :: rest => Parse.readRoot handles true rest
  | rest =>
    if rest.length < tokens.length then throw .grammar
    if rest = [.streamEnd] then return .blank
    Parse.readRoot handles false rest

end CompletionCache.Yaml
