import CompletionCache.Url.Percent

/-!
# Hosts of addresses

A host is empty, a name, or a numeric address of either length, kept in the form in which it is
written. `Host.parse` reads the host of a general scheme, where a name is taken as it stands;
`Host.parseSpecial` reads the host of a special scheme, where a name is lowered and a name that ends
in a number is a numeric address.
-/

set_option autoImplicit false

namespace CompletionCache

/-- The host of an address. -/
inductive Host where
  | empty
  | domain (name : List Char)
  | ipv4 (text : List Char)
  | ipv6 (pieces : List Nat)
  deriving DecidableEq

/-- What is wrong with an address. -/
inductive UrlFault where
  | noScheme
  | emptyHost
  | invalidPort
  | invalidIpv4
  | invalidIpv6
  | invalidDomainCharacter
  | invalidInternational
  deriving DecidableEq

/-- The words of a fault. -/
def UrlFault.message : UrlFault → String
  | noScheme => "relative URL without a base"
  | emptyHost => "empty host"
  | invalidPort => "invalid port number"
  | invalidIpv4 => "invalid IPv4 address"
  | invalidIpv6 => "invalid IPv6 address"
  | invalidDomainCharacter => "invalid domain character"
  | invalidInternational => "invalid international domain name"

namespace Host

/-- The parts of a text between the occurrences of a character. -/
def splitOn (mark : Char) : List Char → List (List Char)
  | [] => [[]]
  | c :: rest =>
    match splitOn mark rest with
    | [] => [[c]]
    | part :: parts => if c = mark then [] :: part :: parts else (c :: part) :: parts

/-! ## Numeric addresses in brackets -/

/-- A group of one to four hexadecimal digits. -/
def hexGroup? (group : List Char) : Option Nat :=
  if group.isEmpty ∨ 4 < group.length then none else Positional.number? 16 group

/-- A part of a dotted address: a number below 256 without a zero in front. -/
def dottedPart? (part : List Char) : Option Nat := do
  if part.isEmpty ∨ (part.head? = some '0' ∧ 1 < part.length) then none
  let value ← Positional.number? 10 part
  if value ≤ 255 then some value else none

/-- The two pieces that a dotted address stands for. -/
def dottedPieces? (text : List Char) : Option (List Nat) := do
  match ← (splitOn '.' text).mapM dottedPart? with
  | [a, b, c, d] => some [256 * a + b, 256 * c + d]
  | _ => none

/-- The pieces of groups between colons; only the last one may be a dotted address, and only
`lastMayBeDotted`. -/
def pieces? (lastMayBeDotted : Bool) : List (List Char) → Option (List Nat)
  | [] => some []
  | [last] =>
    if lastMayBeDotted ∧ last.contains '.' then dottedPieces? last
    else (fun p => [p]) <$> hexGroup? last
  | group :: rest => do
    let piece ← hexGroup? group
    let pieces ← pieces? lastMayBeDotted rest
    some (piece :: pieces)

/-- The parts before and behind the first pair of colons, if there is one. -/
def splitAtPair : List Char → List Char × Option (List Char)
  | [] => ([], none)
  | ':' :: ':' :: rest => ([], some rest)
  | c :: rest => let (before, behind) := splitAtPair rest; (c :: before, behind)

/-- The groups of a text, none for an empty one. -/
def groups (text : List Char) : List (List Char) := if text.isEmpty then [] else splitOn ':' text

/-- The eight pieces of an address between brackets. A pair of colons stands for as many zeros as
are missing, at least one. -/
def ipv6Pieces? (text : List Char) : Option (List Nat) :=
  match splitAtPair text with
  | (all, none) => do
    let pieces ← pieces? true (groups all)
    if pieces.length = 8 then some pieces else none
  | (before, some behind) => do
    let front ← pieces? false (groups before)
    let back ← pieces? true (groups behind)
    if front.length + back.length ≤ 7 then
      some (front ++ List.replicate (8 - front.length - back.length) 0 ++ back)
    else none

/-- How many zeros stand in front. -/
def leadingZeros (pieces : List Nat) : Nat := (pieces.takeWhile (· == 0)).length

/-- The position of the first of the longest runs of zeros and its length. -/
def longestZeros (pieces : List Nat) : Nat × Nat :=
  (List.range pieces.length).foldl (fun best i =>
    let length := leadingZeros (pieces.drop i)
    if best.2 < length then (i, length) else best) (0, 0)

/-- Groups in small hexadecimal digits with colons between them. -/
def groupsText (pieces : List Nat) : List Char :=
  [':'].intercalate (pieces.map (Nat.toDigits 16))

/-- An address in brackets, its longest run of two or more zeros as a pair of colons. -/
def ipv6Text (pieces : List Nat) : List Char :=
  let (start, length) := longestZeros pieces
  let body := if length < 2 then groupsText pieces
    else groupsText (pieces.take start) ++ ':' :: ':' :: groupsText (pieces.drop (start + length))
  '[' :: body ++ [']']

/-- The host in a text with a bracket in front. -/
def parseBracketed (text : List Char) : Except UrlFault Host :=
  match text.getLast?, ipv6Pieces? (text.drop 1).dropLast with
  | some ']', some pieces => .ok (.ipv6 pieces)
  | _, _ => .error .invalidIpv6

/-! ## Names -/

/-- The characters that no host of a general scheme has. -/
def isForbidden (c : Char) : Bool :=
  ['\x00', '\t', '\n', '\r', ' ', '#', '/', ':', '<', '>', '?', '@', '[', '\\', ']', '^',
    '|'].contains c

/-- The host of an address with a general scheme. -/
def parse (text : List Char) : Except UrlFault Host :=
  match text with
  | [] => .ok .empty
  | '[' :: _ => parseBracketed text
  | _ =>
    if text.any isForbidden then .error .invalidDomainCharacter
    else .ok (.domain (Percent.encode Percent.controls text))

/-! ## Special schemes -/

/-- A part of a numeric address: a number in one of three bases; an empty one is zero behind its
base. -/
def ipv4Part? (part : List Char) : Option Nat :=
  match part with
  | [] => none
  | '0' :: 'x' :: rest => Positional.number? 16 rest
  | '0' :: 'X' :: rest => Positional.number? 16 rest
  | ['0'] => some 0
  | '0' :: rest => Positional.number? 8 rest
  | _ => Positional.number? 10 part

/-- The parts of a name, without the empty one behind a last point. -/
def nameParts (name : List Char) : List (List Char) :=
  let parts := splitOn '.' name
  if parts.getLast? = some [] ∧ 1 < parts.length then parts.dropLast else parts

/-- Whether the last part of a name is a number. -/
def endsInNumber (name : List Char) : Bool :=
  match (nameParts name).getLast? with
  | some last =>
    (!last.isEmpty && last.all Char.isDigit) ||
      ((last.take 2 == ['0', 'x'] || last.take 2 == ['0', 'X']) && (ipv4Part? last).isSome)
  | none => false

/-- The numeric address of some parts: each but the last is one byte, the last fills the rest. -/
def ipv4Value? (parts : List Nat) : Option Nat :=
  let front := parts.dropLast
  let last := parts.getLast?.getD 0
  if 4 < parts.length ∨ front.any (255 < ·) ∨ Nat.pow 256 (4 - front.length) ≤ last then none
  else
    let high := front.foldl (fun value part => 256 * value + part) 0
    some (high * Nat.pow 256 (4 - front.length) + last)

/-- A numeric address as four numbers with points between them. -/
def ipv4Text (value : Nat) : List Char :=
  ['.'].intercalate ([3, 2, 1, 0].map fun i => Nat.toDigits 10 (value / Nat.pow 256 i % 256))

/-- The host of an address with a special scheme. -/
def parseSpecial (text : List Char) : Except UrlFault Host :=
  if text.head? = some '[' then parseBracketed text
  else
    match Percent.utf8? (Percent.decode text) with
    | none => .error .invalidInternational
    | some decoded =>
      let name := decoded.toList.map Char.toLower
      if name.isEmpty then .error .emptyHost
      else if name.any (fun c =>
          isForbidden c || Percent.isForeign c && c.toNat < 0x80 || c == '%') then
        .error .invalidInternational
      else if endsInNumber name then
        match (nameParts name).mapM ipv4Part? with
        | none => .error .invalidIpv4
        | some parts =>
          match ipv4Value? parts with
          | some value => .ok (.ipv4 (ipv4Text value))
          | none => .error .invalidIpv4
      else .ok (.domain name)

/-- The text of a host. -/
def text : Host → List Char
  | empty => []
  | domain name => name
  | ipv4 text => text
  | ipv6 pieces => ipv6Text pieces

end Host

end CompletionCache
