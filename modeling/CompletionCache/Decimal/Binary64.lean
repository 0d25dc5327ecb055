/-!
# Binary64 numbers by their bits

A binary64 number is its bit pattern, so equality is bit for bit and a NaN equals itself. The
magnitude of a finite number is a whole number of units, where one unit is `2 ^ (-1074)`, the
smallest positive number. Every rounding goes through `ofRatio`, which takes an exact quotient to
the nearest number, ties to the even bit pattern.
-/

set_option autoImplicit false

namespace CompletionCache

/-- A binary64 number, given by its 64 bits. -/
structure Binary64 where
  bits : UInt64
  deriving DecidableEq, Inhabited

namespace Binary64

/-- The bits below the sign bit, as a number. -/
def magnitude (x : Binary64) : Nat := x.bits.toNat % Nat.pow 2 63

/-- The sign bit. -/
def isNegative (x : Binary64) : Bool := decide (Nat.pow 2 63 ≤ x.bits.toNat)

/-- The magnitude of the infinities; every larger magnitude belongs to a NaN. -/
def infinityMagnitude : Nat := 2047 * Nat.pow 2 52

/-- A number that is neither infinite nor a NaN. -/
def isFinite (x : Binary64) : Bool := decide (x.magnitude < infinityMagnitude)

/-- A bit pattern that is no number. -/
def isNaN (x : Binary64) : Bool := decide (infinityMagnitude < x.magnitude)

/-- The number with the given sign and magnitude bits. -/
def ofMagnitude (negative : Bool) (magnitude : Nat) : Binary64 :=
  ⟨UInt64.ofNat ((if negative then Nat.pow 2 63 else 0) + magnitude)⟩

/-- How many units of `2 ^ (-1074)` the magnitude of a finite number holds. -/
def units (x : Binary64) : Nat :=
  let exponent := x.magnitude / Nat.pow 2 52
  let fraction := x.magnitude % Nat.pow 2 52
  if exponent = 0 then fraction else (Nat.pow 2 52 + fraction) * Nat.pow 2 (exponent - 1)

/-- The whole number nearest to `num / den`, a half going to the even neighbour. -/
def roundHalfEven (num den : Nat) : Nat :=
  let quotient := num / den
  let rest := num % den
  if 2 * rest < den then quotient
  else if den < 2 * rest then quotient + 1
  else quotient + quotient % 2

/-- The magnitude bits of the number nearest to `num / den`. The scale is the least one under which
the quotient has at most 53 bits; a carry out of the last bit moves to the next scale by itself. -/
def nearestMagnitude (num den : Nat) : Nat :=
  let scaled := num * Nat.pow 2 1074
  let scale := (scaled / den).log2 - 52
  min (scale * Nat.pow 2 52 + roundHalfEven scaled (den * Nat.pow 2 scale)) infinityMagnitude

/-- The number nearest to `± num / den`; beyond the largest finite number, the infinity. -/
def ofRatio (negative : Bool) (num den : Nat) : Binary64 :=
  ofMagnitude negative (nearestMagnitude num den)

/-- The number nearest to a whole number. -/
def ofNat (n : Nat) : Binary64 := ofRatio false n 1

/-- The number nearest to an integer. -/
def ofInt (n : Int) : Binary64 := ofRatio (decide (n < 0)) n.natAbs 1

/-- The number nearest to `± digits * 10 ^ exponent`. Exponents far outside the range are settled
without writing the power out. -/
def ofDecimal (negative : Bool) (digits : Nat) (exponent : Int) : Binary64 :=
  match exponent with
  | .ofNat e =>
    if digits = 0 then ofMagnitude negative 0
    else if 400 < e then ofMagnitude negative infinityMagnitude
    else ofRatio negative (digits * Nat.pow 10 e) 1
  | .negSucc e =>
    if digits.log2 + 400 < e then ofMagnitude negative 0
    else ofRatio negative digits (Nat.pow 10 (e + 1))

/-- Positive zero. -/
def zero : Binary64 := ⟨0⟩

/-- The number one. -/
def one : Binary64 := ⟨0x3FF0000000000000⟩

/-- The infinity of the given sign. -/
def infinity (negative : Bool) : Binary64 := ofMagnitude negative infinityMagnitude

/-- The quiet NaN without a sign. -/
def nan : Binary64 := ⟨0x7FF8000000000000⟩

/-- Sum of two finite numbers without a sign. -/
def add (x y : Binary64) : Binary64 := ofRatio false (x.units + y.units) (Nat.pow 2 1074)

/-- Quotient of two finite numbers without a sign, the second not zero. -/
def div (x y : Binary64) : Binary64 := ofRatio false x.units y.units

/-- Product of a finite number without a sign and a small whole number. -/
def scale (n : Nat) (x : Binary64) : Binary64 := ofRatio false (n * x.units) (Nat.pow 2 1074)

/-- Whether a number lies between zero and one; both zeros do, and a NaN does not. -/
def isInUnitInterval (x : Binary64) : Bool :=
  x.magnitude == 0 || (!x.isNegative && decide (x.magnitude ≤ one.magnitude))

end Binary64

end CompletionCache
