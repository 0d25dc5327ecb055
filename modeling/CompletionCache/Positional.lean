/-!
# Numbers written in digits

`Positional.decimal` is the number that a run of decimal digits writes; `Positional.number?` reads
digits in any base up to sixteen and refuses everything else.
-/

set_option autoImplicit false

namespace CompletionCache.Positional

/-- The number that some decimal digits write. -/
def decimal (digits : List Char) : Nat :=
  digits.foldl (fun value c => 10 * value + (c.toNat - 48)) 0

/-- The value of a hexadecimal digit. -/
def digit? (c : Char) : Option Nat :=
  if '0' ≤ c ∧ c ≤ '9' then some (c.toNat - 48)
  else if 'a' ≤ c ∧ c ≤ 'f' then some (c.toNat - 87)
  else if 'A' ≤ c ∧ c ≤ 'F' then some (c.toNat - 55)
  else none

/-- The number that some digits write in a base of at most sixteen, if all of them are digits of it;
no digits write zero. -/
def number? (base : Nat) (digits : List Char) : Option Nat :=
  digits.foldlM (fun value c => do
    let d ← digit? c
    if d < base then some (base * value + d) else none) 0

/-- A sign at the front, true for a minus, and what follows it. -/
def splitSign : List Char → Bool × List Char
  | '+' :: rest => (false, rest)
  | '-' :: rest => (true, rest)
  | rest => (false, rest)

/-! ## Numbers of 64 bits -/

/-- Why a text writes no number. -/
inductive Fault where
  | empty
  | invalidDigit
  | tooLarge
  deriving DecidableEq

/-- The words of a fault. -/
def Fault.message : Fault → String
  | empty => "cannot parse integer from empty string"
  | invalidDigit => "invalid digit found in string"
  | tooLarge => "number too large to fit in target type"

/-- Adds decimal digits behind a number one after another; the first one that is no digit or makes
the number too large is the fault. -/
def extend (value : Nat) : List Char → Except Fault Nat
  | [] => .ok value
  | c :: rest =>
    if !c.isDigit then .error .invalidDigit
    else
      let next := 10 * value + (c.toNat - 48)
      if UInt64.size ≤ next then .error .tooLarge else extend next rest

/-- The number of 64 bits that a text writes in decimal digits, behind an optional plus. -/
def readUInt64 (text : List Char) : Except Fault UInt64 :=
  let digits := match text with
    | '+' :: rest => rest
    | digits => digits
  if text.isEmpty then .error .empty
  else if digits.isEmpty then .error .invalidDigit
  else UInt64.ofNat <$> extend 0 digits

/-- The number of 64 bits with a sign that a text writes in decimal digits. -/
def int64? (text : List Char) : Option Int :=
  let (negative, digits) := splitSign text
  if digits.isEmpty ∨ !digits.all Char.isDigit then none
  else
    let size : Int := decimal digits
    let value := if negative then -size else size
    if -0x8000000000000000 ≤ value ∧ value < 0x8000000000000000 then some value else none

end CompletionCache.Positional
