import CompletionCache.Decimal.Digits

/-!
# Instants and durations

An instant counts nanoseconds from the epoch of its clock and may lie before it; a duration counts
nanoseconds. A wall clock holds whole seconds of 63 bits on each side of the epoch, so `addWithin?`
refuses a sum behind its end. A document writes an instant as binary64 seconds since the epoch,
which `Instant.ofSeconds?` reads to the nearest nanosecond.
-/

set_option autoImplicit false

namespace CompletionCache

/-- A length of time in nanoseconds. -/
abbrev Duration := Nat

/-- A moment, in nanoseconds from the epoch of its clock. -/
abbrev Instant := Int

/-- The nanoseconds of a second. -/
def nanosPerSecond : Nat := 1000000000

/-- The nanoseconds of a millisecond. -/
def nanosPerMilli : Nat := 1000000

namespace Duration

/-- A duration of whole seconds. -/
def ofSeconds (seconds : Nat) : Duration := seconds * nanosPerSecond

/-- A duration of whole milliseconds. -/
def ofMillis (millis : Nat) : Duration := millis * nanosPerMilli

/-- The whole milliseconds of a duration. -/
def toMillis (duration : Duration) : Nat := duration / nanosPerMilli

/-- A quotient by a power of ten in decimal digits, without zeros at the end of its places. -/
def scaledText (value places : Nat) : List Char :=
  let fraction := value % Nat.pow 10 places
  let digits := Nat.toDigits 10 fraction
  let padded := List.replicate (places - digits.length) '0' ++ digits
  let kept := (padded.reverse.dropWhile (· == '0')).reverse
  let whole := Nat.toDigits 10 (value / Nat.pow 10 places)
  if fraction = 0 then whole else whole ++ '.' :: kept

/-- The text of a duration in the largest unit, down to nanoseconds, of which it holds a whole
one. -/
def text (duration : Duration) : String :=
  if nanosPerSecond ≤ duration then String.ofList (scaledText duration 9) ++ "s"
  else if nanosPerMilli ≤ duration then String.ofList (scaledText duration 6) ++ "ms"
  else if 1000 ≤ duration then String.ofList (scaledText duration 3) ++ "µs"
  else String.ofList (scaledText duration 0) ++ "ns"

end Duration

namespace Instant

/-- The first instant behind the range of a wall clock. -/
def clockEnd : Instant := 0x8000000000000000 * nanosPerSecond

/-- The instant a duration later, if a wall clock can hold it. -/
def addWithin? (now : Instant) (duration : Duration) : Option Instant :=
  let sum := now + duration
  if sum < clockEnd then some sum else none

/-- How long it takes from `now` until an instant, nothing if it has passed. -/
def remaining (instant now : Instant) : Duration := (instant - now).toNat

/-- The seconds since the epoch as a binary64 number, zero before it. Whole seconds and the part of
a second are rounded on their own and then added. -/
def toSeconds (instant : Instant) : Binary64 :=
  match instant with
  | .ofNat nanos =>
    (Binary64.ofNat (nanos / nanosPerSecond)).add
      ((Binary64.ofNat (nanos % nanosPerSecond)).div (Binary64.ofNat nanosPerSecond))
  | .negSucc _ => .zero

/-- The instant so many seconds after the epoch, to the nearest nanosecond, a half going to the even
one. There is none for a number that is negative or not finite, or that no clock can hold. -/
def ofSeconds? (seconds : Binary64) : Option Instant :=
  let nanos := Binary64.roundHalfEven (seconds.units * nanosPerSecond) (Nat.pow 2 1074)
  if seconds.isFinite ∧ (seconds.isNegative = false ∨ seconds.magnitude = 0) ∧
      (nanos : Int) < clockEnd then some nanos
  else none

end Instant

end CompletionCache
