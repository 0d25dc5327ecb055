import CompletionCache.Decimal.Binary64

/-!
# Shortest decimal digits

`Binary64.digits` gives the fewest decimal digits that read back as the same number. On the grid of
`n` significant digits the two neighbours of the exact value are tried; the first grid with a
neighbour that reads back wins, and of two such neighbours the nearer one, an exact tie going to the
even neighbour. Should no grid of up to seventeen digits serve, the exact expansion does.
-/

set_option autoImplicit false

namespace CompletionCache

/-- How many decimal digits a whole number has; zero has one. -/
def digitCount (n : Nat) : Nat := (Nat.toDigits 10 n).length

namespace Binary64

/-- The power of ten of the first significant digit of a finite number that is not zero. -/
def decimalExponent (x : Binary64) : Int :=
  let one := Nat.pow 2 1074
  if one ≤ x.units then (digitCount (x.units / one) : Int) - 1
  else -(digitCount ((one + x.units - 1) / x.units - 1) : Int)

/-- The exact magnitude over `10 ^ exponent`, as a quotient of whole numbers. -/
def overPowerOfTen (x : Binary64) : Int → Nat × Nat
  | .ofNat e => (x.units, Nat.pow 2 1074 * Nat.pow 10 e)
  | .negSucc e => (x.units * Nat.pow 10 (e + 1), Nat.pow 2 1074)

/-- Whether `digits * 10 ^ exponent` reads back as the magnitude of `x`. -/
def readsBack (x : Binary64) (digits : Nat) (exponent : Int) : Bool :=
  decide ((ofDecimal false digits exponent).magnitude = x.magnitude)

/-- The better neighbour on the grid of `count` significant digits, if one reads back. -/
def onGrid (x : Binary64) (count : Nat) : Option (Nat × Int) :=
  let exponent := x.decimalExponent - count + 1
  let (num, den) := x.overPowerOfTen exponent
  let below := num / den
  let nearest := roundHalfEven num den
  let other := if nearest = below then below + 1 else below
  if x.readsBack nearest exponent then some (nearest, exponent)
  else if x.readsBack other exponent then some (other, exponent)
  else none

/-- A decimal `digits * 10 ^ exponent` that reads back as the magnitude of the finite number `x`,
with the fewest digits up to trailing zeros. -/
def decimal (x : Binary64) : Nat × Int :=
  ((List.range 17).findSome? fun n => x.onGrid (n + 1)).getD (x.units * Nat.pow 5 1074, -1074)

/-- A run of decimal digits and the power of ten of its last digit. -/
structure Digits where
  digits : List Char
  exponent : Int

/-- The digits of `decimal` without trailing zeros. -/
def digits (x : Binary64) : Digits :=
  let (value, exponent) := x.decimal
  let written := Nat.toDigits 10 value
  let trailing := (written.reverse.takeWhile (· == '0')).length
  ⟨written.take (written.length - trailing), exponent + trailing⟩

/-- The power of ten of the first digit. -/
def Digits.leading (d : Digits) : Int := d.exponent + d.digits.length - 1

/-- Positional writing without an exponent; a whole number gets `wholeTail` behind it. -/
def Digits.positional (d : Digits) (wholeTail : List Char) : List Char :=
  match d.exponent with
  | .ofNat e => d.digits ++ List.replicate e '0' ++ wholeTail
  | .negSucc e =>
    let places := e + 1
    if places < d.digits.length then
      d.digits.take (d.digits.length - places) ++ '.' :: d.digits.drop (d.digits.length - places)
    else
      '0' :: '.' :: List.replicate (places - d.digits.length) '0' ++ d.digits

/-- Writing with one digit before the point and an exponent with its sign. -/
def Digits.scientific (d : Digits) : List Char :=
  let mantissa := match d.digits with
    | first :: second :: rest => first :: '.' :: second :: rest
    | short => short
  let exponent := match d.leading with
    | .ofNat e => '+' :: Nat.toDigits 10 e
    | .negSucc e => '-' :: Nat.toDigits 10 (e + 1)
  mantissa ++ 'e' :: exponent

/-- The sign in front of a text. -/
def signed (x : Binary64) (text : List Char) : List Char :=
  if x.isNegative then '-' :: text else text

/-- The text of a finite number inside a document: always with a point or an exponent, positional
when the first digit stands between `10 ^ (-5)` and `10 ^ 15`. -/
def documentText (x : Binary64) : List Char :=
  if x.magnitude = 0 then x.signed ['0', '.', '0']
  else
    let d := x.digits
    x.signed (if -5 ≤ d.leading ∧ d.leading ≤ 15 then d.positional ['.', '0'] else d.scientific)

/-- The text of a number inside a message: positional, and a whole number without a point. -/
def messageText (x : Binary64) : String :=
  if x.isNaN then "NaN"
  else if !x.isFinite then String.ofList (x.signed ['i', 'n', 'f'])
  else if x.magnitude = 0 then String.ofList (x.signed ['0'])
  else String.ofList (x.signed (x.digits.positional []))

end Binary64

end CompletionCache
