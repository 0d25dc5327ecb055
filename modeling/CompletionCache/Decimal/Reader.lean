import CompletionCache.Decimal.Binary64
import CompletionCache.Positional

/-!
# Binary64 numbers from text

`Binary64.parse?` reads an optional sign and then digits, with a point at any place among or beside
them and an optional exponent, or one of the words for the infinity and the NaN in any case. The
number is the nearest one; beyond the largest finite number it is the infinity.

Two roundings take digits to a number. `Binary64.readNearest` goes to the nearest one at once.
`Binary64.readScaled`, which documents are read with, keeps as many digits as fit 64 bits, rounds
them, and multiplies or divides the result by a rounded power of ten. It rounds two or three times,
so it may miss the nearest number by some units in the last place.
-/

set_option autoImplicit false

namespace CompletionCache

namespace Binary64

/-! ## Roundings of digits -/

/-- A way to take the digits in front of a point, those behind it and an exponent to a number. -/
abbrev Rounding := (negative : Bool) → (whole places : List Char) → (exponent : Int) → Binary64

/-- The number nearest to what the digits write. -/
def readNearest : Rounding := fun negative whole places exponent =>
  ofDecimal negative (Positional.decimal (whole ++ places)) (exponent - places.length)

/-- Takes digits into a significand as long as it fits 64 bits. Returns it with the count of the
digits that are left. -/
def takeDigits : (digits : List Char) → (significand : Nat) → Nat × Nat
  | [], significand => (significand, 0)
  | c :: rest, significand =>
    let next := 10 * significand + (c.toNat - 48)
    if next < UInt64.size then takeDigits rest next else (significand, rest.length + 1)

/-- The greatest exponent of a power of ten that is finite. -/
def maxPower : Nat := 308

/-- The number nearest to a power of ten. -/
def powerOfTen (exponent : Nat) : Binary64 := ofNat (Nat.pow 10 exponent)

/-- A number without a sign times a power of ten. -/
def scaleUp (x : Binary64) (exponent : Nat) : Binary64 :=
  if exponent ≤ maxPower then
    ofRatio false (x.units * (powerOfTen exponent).units) (Nat.pow 2 2148)
  else if x.magnitude = 0 then x
  else infinity false

/-- A significand of 64 bits over a power of ten. Powers that are not finite are divided by in two
steps, and more than two steps leave nothing. -/
def scaleDown (x : Binary64) (exponent : Nat) : Binary64 :=
  if exponent ≤ maxPower then x.div (powerOfTen exponent)
  else if exponent ≤ 2 * maxPower then
    (x.div (powerOfTen maxPower)).div (powerOfTen (exponent - maxPower))
  else zero

/-- The number that the digits write, rounded as a significand and again under each scaling. Digits
in front of the point that do not fit the significand count for the exponent, and digits behind the
point that do not fit it are dropped. -/
def readScaled : Rounding := fun negative whole places exponent =>
  let (front, uncounted) := takeDigits whole 0
  let (significand, dropped) := takeDigits places front
  let scaled := match exponent + uncounted - (places.length - dropped : Nat) with
    | .ofNat power => (ofNat significand).scaleUp power
    | .negSucc power => (ofNat significand).scaleDown (power + 1)
  ofMagnitude negative scaled.magnitude

/-! ## Words and digits -/

/-- The exponent that the whole of a text writes; an empty text stands for zero. -/
def parseExponent? : List Char → Option Int
  | [] => some 0
  | mark :: rest =>
    let (below, digits) := Positional.splitSign rest
    if (mark = 'e' ∨ mark = 'E') ∧ !digits.isEmpty ∧ digits.all Char.isDigit then
      let size : Int := Positional.decimal digits
      some (if below then -size else size)
    else none

/-- A number without a sign that the whole of a text writes in digits. -/
def parseDigits? (negative : Bool) (text : List Char) : Option Binary64 := do
  let (whole, rest) := text.span Char.isDigit
  let (places, rest) := match rest with
    | '.' :: rest => rest.span Char.isDigit
    | rest => ([], rest)
  if whole.isEmpty ∧ places.isEmpty then none
  let exponent ← parseExponent? rest
  return ofDecimal negative (Positional.decimal (whole ++ places)) (exponent - places.length)

/-- The number that the whole of a text writes. -/
def parse? (text : List Char) : Option Binary64 :=
  let (negative, rest) := Positional.splitSign text
  let word := rest.map Char.toLower
  if word = ['i', 'n', 'f'] ∨ word = ['i', 'n', 'f', 'i', 'n', 'i', 't', 'y'] then
    some (infinity negative)
  else if word = ['n', 'a', 'n'] then some nan
  else parseDigits? negative rest

end Binary64

end CompletionCache
