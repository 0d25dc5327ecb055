import CompletionCache.Decimal.Binary64
import Mathlib.Tactic

/-!
# Rounding quotients to binary64

`Binary64.nearestMagnitude` depends on the value of a quotient alone (`nearestMagnitude_congr`), and
a finite number is the nearest one to its own units (`nearestMagnitude_units`). The limits beyond
which `ofDecimal` does not write a power out decide as the rounding would (`ofDecimal_eq_ofRatio`),
so a decimal may gain or lose zeros at its end (`ofDecimal_mul_pow`).
-/

set_option autoImplicit false

namespace CompletionCache.Binary64

/-! ## Bits -/

theorem bits_lt (x : Binary64) : x.bits.toNat < 2 ^ 64 := x.bits.toNat_lt

/-- A number is its sign and its magnitude. -/
theorem ofMagnitude_isNegative_magnitude (x : Binary64) :
    ofMagnitude x.isNegative x.magnitude = x := by
  have small := x.bits_lt
  have bits : UInt64.ofNat ((if x.isNegative then Nat.pow 2 63 else 0) + x.magnitude) = x.bits := by
    rw [← UInt64.toNat_inj, UInt64.toNat_ofNat', magnitude, Nat.pow_eq]
    cases sign : x.isNegative with
    | true =>
      have above : 2 ^ 63 ≤ x.bits.toNat := by simpa [isNegative] using sign
      rw [if_pos rfl]
      omega
    | false =>
      have below : x.bits.toNat < 2 ^ 63 := by simpa [isNegative] using sign
      rw [if_neg Bool.false_ne_true]
      omega
  rw [ofMagnitude, bits]

theorem magnitude_ofMagnitude (negative : Bool) {magnitude : Nat} (small : magnitude < 2 ^ 63) :
    (ofMagnitude negative magnitude).magnitude = magnitude := by
  simp only [ofMagnitude, Binary64.magnitude, Nat.pow_eq, UInt64.toNat_ofNat']
  cases negative with
  | true => simp only [if_true]; omega
  | false => simp only [Bool.false_eq_true, if_false]; omega

theorem nearestMagnitude_lt (num den : Nat) : nearestMagnitude num den < 2 ^ 63 := by
  have bound : nearestMagnitude num den ≤ infinityMagnitude := Nat.min_le_right _ _
  have limit : infinityMagnitude < 2 ^ 63 := by
    rw [infinityMagnitude, Nat.pow_eq]
    norm_num
  exact lt_of_le_of_lt bound limit

/-! ## Quotients -/

theorem nearestMagnitude_eq (num den : Nat) :
    nearestMagnitude num den =
      min (((num * 2 ^ 1074 / den).log2 - 52) * 2 ^ 52 + roundHalfEven (num * 2 ^ 1074)
        (den * 2 ^ ((num * 2 ^ 1074 / den).log2 - 52))) infinityMagnitude := by
  delta nearestMagnitude
  exact Eq.refl _

theorem roundHalfEven_mul_left {factor : Nat} (positive : 0 < factor) (num den : Nat) :
    roundHalfEven (factor * num) (factor * den) = roundHalfEven num den := by
  have double : ∀ a : Nat, 2 * (factor * a) = factor * (2 * a) := fun a => by ring
  simp only [roundHalfEven, Nat.mul_div_mul_left _ _ positive, Nat.mul_mod_mul_left, double,
    Nat.mul_lt_mul_left positive]

theorem nearestMagnitude_mul_left {factor : Nat} (positive : 0 < factor) (num den : Nat) :
    nearestMagnitude (factor * num) (factor * den) = nearestMagnitude num den := by
  simp only [nearestMagnitude, Nat.mul_assoc, Nat.mul_div_mul_left _ _ positive,
    roundHalfEven_mul_left positive]

/-- Equal quotients are rounded to the same number. -/
theorem nearestMagnitude_congr {num den num' den' : Nat} (positive : 0 < den)
    (positive' : 0 < den') (same : num * den' = num' * den) :
    nearestMagnitude num den = nearestMagnitude num' den' := by
  calc nearestMagnitude num den
      = nearestMagnitude (den' * num) (den' * den) :=
        (nearestMagnitude_mul_left positive' num den).symm
    _ = nearestMagnitude (den * num') (den * den') := by
        rw [Nat.mul_comm den' num, same, Nat.mul_comm num' den, Nat.mul_comm den' den]
    _ = nearestMagnitude num' den' := nearestMagnitude_mul_left positive num' den'

theorem roundHalfEven_mul_self {den : Nat} (positive : 0 < den) (quotient : Nat) :
    roundHalfEven (quotient * den) den = quotient := by
  rw [roundHalfEven, Nat.mul_mod_left, Nat.mul_div_cancel _ positive]
  simp [positive]

/-! ## Units -/

theorem units_of_subnormal {x : Binary64} (subnormal : x.magnitude / 2 ^ 52 = 0) :
    x.units = x.magnitude := by
  have split := Nat.div_add_mod x.magnitude (2 ^ 52)
  rw [units, Nat.pow_eq, if_pos subnormal]
  omega

theorem units_of_normal {x : Binary64} (normal : x.magnitude / 2 ^ 52 ≠ 0) :
    x.units = (2 ^ 52 + x.magnitude % 2 ^ 52) * 2 ^ (x.magnitude / 2 ^ 52 - 1) := by
  rw [units, Nat.pow_eq, if_neg normal]
  rfl

/-- The hidden bit of a normal number is the first one of its units. -/
theorem log2_units_of_normal {x : Binary64} (normal : x.magnitude / 2 ^ 52 ≠ 0) :
    x.units.log2 = 52 + (x.magnitude / 2 ^ 52 - 1) := by
  have fractionSmall := Nat.mod_lt x.magnitude (show 0 < 2 ^ 52 by positivity)
  have unitsEq := units_of_normal normal
  have positive : 0 < x.units := by
    rw [unitsEq]
    positivity
  rw [Nat.log2_eq_iff (Nat.ne_of_gt positive), unitsEq, pow_add, pow_add, pow_add]
  constructor
  · exact Nat.mul_le_mul_right _ (by omega)
  · calc (2 ^ 52 + x.magnitude % 2 ^ 52) * 2 ^ (x.magnitude / 2 ^ 52 - 1)
        < 2 ^ 52 * 2 * 2 ^ (x.magnitude / 2 ^ 52 - 1) :=
          Nat.mul_lt_mul_of_pos_right (by omega) (by positivity)
      _ = 2 ^ 52 * 2 ^ (x.magnitude / 2 ^ 52 - 1) * 2 ^ 1 := by ring

/-- A finite number is the nearest one to its own units. -/
theorem nearestMagnitude_units {x : Binary64} (finite : x.isFinite = true) :
    nearestMagnitude x.units (2 ^ 1074) = x.magnitude := by
  have below : x.magnitude < infinityMagnitude := by simpa [isFinite] using finite
  rw [nearestMagnitude_eq, Nat.mul_div_cancel _ (Nat.two_pow_pos 1074)]
  -- Units that are a multiple of the scale are divided without a rest, so nothing is rounded.
  have scaled : ∀ scale quotient : Nat, x.units = quotient * 2 ^ scale →
      roundHalfEven (x.units * 2 ^ 1074) (2 ^ 1074 * 2 ^ scale) = quotient := by
    intro scale quotient exact
    rw [exact, Nat.mul_assoc, Nat.mul_comm (2 ^ scale) (2 ^ 1074)]
    exact roundHalfEven_mul_self (by positivity) quotient
  by_cases subnormal : x.magnitude / 2 ^ 52 = 0
  · have unitsEq := units_of_subnormal subnormal
    have scale : x.units.log2 - 52 = 0 := by
      rcases Nat.eq_zero_or_pos x.units with zero | positive
      · rw [zero]
        rfl
      · have := (Nat.log2_lt (Nat.ne_of_gt positive) (k := 52)).2 (by omega)
        omega
    rw [scale, scaled 0 x.units (by simp), unitsEq]
    omega
  · have split := Nat.div_add_mod x.magnitude (2 ^ 52)
    rw [log2_units_of_normal subnormal, Nat.add_sub_cancel_left,
      scaled _ _ (units_of_normal subnormal)]
    omega

/-! ## Decimals -/

theorem roundHalfEven_le (num den : Nat) : roundHalfEven num den ≤ num / den + 1 := by
  simp only [roundHalfEven]
  split_ifs <;> omega

theorem le_roundHalfEven (num den : Nat) : num / den ≤ roundHalfEven num den := by
  simp only [roundHalfEven]
  split_ifs <;> omega

/-- The scale leaves at most 53 bits of a quotient, so what is rounded does not pass the exponent
behind it. -/
theorem roundHalfEven_scaled_le (num den : Nat) :
    roundHalfEven num (den * 2 ^ ((num / den).log2 - 52)) ≤ 2 ^ 53 := by
  refine Nat.le_trans (roundHalfEven_le _ _) (Nat.succ_le_of_lt ?_)
  rw [← Nat.div_div_eq_div_mul, Nat.div_lt_iff_lt_mul (Nat.two_pow_pos _), ← Nat.pow_add]
  exact Nat.lt_of_lt_of_le Nat.lt_log2_self (Nat.pow_le_pow_right Nat.two_pos (by omega))

/-- The scale leaves 53 bits of a quotient that has them, so what is rounded reaches the next
exponent. -/
theorem le_roundHalfEven_scaled {num den : Nat} (large : 52 ≤ (num / den).log2) :
    2 ^ 52 ≤ roundHalfEven num (den * 2 ^ ((num / den).log2 - 52)) := by
  have nonzero : num / den ≠ 0 := by
    intro zero
    rw [zero] at large
    exact absurd large (by decide)
  refine Nat.le_trans ?_ (le_roundHalfEven _ _)
  rw [← Nat.div_div_eq_div_mul, Nat.le_div_iff_mul_le (Nat.two_pow_pos _), ← Nat.pow_add]
  exact (Nat.le_log2 nonzero).1 (by omega)

/-- A quotient of at least `2 ^ 1024` is rounded to the infinity. -/
theorem nearestMagnitude_of_large {num den : Nat} (positive : 0 < den)
    (large : 2 ^ 1024 * den ≤ num) : nearestMagnitude num den = infinityMagnitude := by
  have quotientLarge : 2 ^ (2046 + 52) ≤ num * 2 ^ 1074 / den := by
    rw [Nat.le_div_iff_mul_le positive]
    calc 2 ^ (2046 + 52) * den = 2 ^ 1024 * den * 2 ^ 1074 := by
          rw [show 2046 + 52 = 1024 + 1074 from rfl, Nat.pow_add, Nat.mul_right_comm]
      _ ≤ num * 2 ^ 1074 := Nat.mul_le_mul_right _ large
  have nonzero : num * 2 ^ 1074 / den ≠ 0 :=
    Nat.ne_of_gt (Nat.lt_of_lt_of_le (Nat.two_pow_pos _) quotientLarge)
  have logLarge := (Nat.le_log2 nonzero).2 quotientLarge
  have leading := le_roundHalfEven_scaled (show 52 ≤ (num * 2 ^ 1074 / den).log2 by omega)
  apply Nat.min_eq_right
  have scaleLarge : 2046 ≤ (num * 2 ^ 1074 / den).log2 - 52 := by omega
  calc infinityMagnitude = 2046 * 2 ^ 52 + 2 ^ 52 := rfl
    _ ≤ _ := Nat.add_le_add (Nat.mul_le_mul_right _ scaleLarge) leading

/-- A quotient below `2 ^ 64` is rounded to a finite number. -/
theorem nearestMagnitude_lt_infinityMagnitude {num den : Nat} (positive : 0 < den)
    (small : num < 2 ^ 64 * den) : nearestMagnitude num den < infinityMagnitude := by
  have quotientSmall : num * 2 ^ 1074 / den < 2 ^ (64 + 1074) := by
    rw [Nat.div_lt_iff_lt_mul positive]
    calc num * 2 ^ 1074 < 2 ^ 64 * den * 2 ^ 1074 :=
          Nat.mul_lt_mul_of_pos_right small (Nat.two_pow_pos 1074)
      _ = 2 ^ (64 + 1074) * den := by rw [Nat.pow_add, Nat.mul_right_comm]
  have leading := roundHalfEven_scaled_le (num * 2 ^ 1074) den
  have scaleSmall : (num * 2 ^ 1074 / den).log2 - 52 ≤ 1086 := by
    rcases Nat.eq_zero_or_pos (num * 2 ^ 1074 / den) with zero | nonzero
    · rw [zero]
      exact Nat.zero_le _
    · have logSmall := (Nat.log2_lt (Nat.ne_of_gt nonzero)).2 quotientSmall
      omega
  rw [nearestMagnitude_eq]
  apply Nat.lt_of_le_of_lt (Nat.min_le_left _ _)
  calc _ ≤ 1086 * 2 ^ 52 + 2 ^ 53 := Nat.add_le_add (Nat.mul_le_mul_right _ scaleSmall) leading
    _ < infinityMagnitude := by
      rw [infinityMagnitude, Nat.pow_eq]
      norm_num

theorem isFinite_ofInt {n : Int} (small : n.natAbs < 2 ^ 64) : (ofInt n).isFinite = true := by
  rw [isFinite, ofInt, ofRatio, magnitude_ofMagnitude _ (nearestMagnitude_lt _ _)]
  refine decide_eq_true (nearestMagnitude_lt_infinityMagnitude Nat.one_pos ?_)
  rw [Nat.mul_one]
  exact small

/-- A quotient below half a unit is rounded to zero. -/
theorem nearestMagnitude_of_small {num den : Nat} (small : 2 * (num * 2 ^ 1074) < den) :
    nearestMagnitude num den = 0 := by
  have quotient : num * 2 ^ 1074 / den = 0 := Nat.div_eq_of_lt (by omega)
  have rest : num * 2 ^ 1074 % den = num * 2 ^ 1074 := Nat.mod_eq_of_lt (by omega)
  rw [nearestMagnitude_eq, quotient]
  simp [roundHalfEven, quotient, rest, small]

theorem ten_pow_ge (n : Nat) : 2 ^ (3 * n) ≤ 10 ^ n := by
  rw [Nat.pow_mul]
  exact Nat.pow_le_pow_left (by norm_num) n

/-- A decimal is the nearest number to its value, whatever its exponent. -/
theorem ofDecimal_eq_ofRatio (negative : Bool) (digits : Nat) (exponent : Int) :
    ofDecimal negative digits exponent =
      ofRatio negative (digits * 10 ^ exponent.toNat) (10 ^ (-exponent).toNat) := by
  cases exponent with
  | ofNat e =>
    simp only [ofDecimal, Nat.pow_eq, Int.ofNat_eq_natCast, Int.toNat_natCast,
      Int.toNat_neg_natCast, Nat.pow_zero]
    -- A large exponent is cut only where the quotient is beyond the largest finite number.
    split_ifs with zero large
    · rw [ofRatio, zero, Nat.zero_mul, nearestMagnitude_of_small (by norm_num)]
    · rw [ofRatio, nearestMagnitude_of_large Nat.one_pos]
      calc 2 ^ 1024 * 1 ≤ 1 * 2 ^ (3 * e) := by
            rw [Nat.mul_one, Nat.one_mul]
            exact Nat.pow_le_pow_right Nat.two_pos (by omega)
        _ ≤ digits * 10 ^ e := Nat.mul_le_mul (Nat.pos_of_ne_zero zero) (ten_pow_ge e)
    · rfl
  | negSucc e =>
    have toNat : (Int.negSucc e).toNat = 0 := rfl
    have negToNat : (-Int.negSucc e).toNat = e + 1 := rfl
    simp only [ofDecimal, Nat.pow_eq, toNat, negToNat, Nat.pow_zero, Nat.mul_one]
    -- A low exponent is cut only where the quotient is below half a unit.
    split_ifs with small
    · rw [ofRatio, nearestMagnitude_of_small]
      calc 2 * (digits * 2 ^ 1074) < 2 * (2 ^ (digits.log2 + 1) * 2 ^ 1074) := by
            have := Nat.mul_lt_mul_of_pos_right (Nat.lt_log2_self (n := digits))
              (Nat.two_pow_pos 1074)
            omega
        _ = 2 ^ (1 + (digits.log2 + 1) + 1074) := by
            rw [Nat.pow_add 2 (1 + (digits.log2 + 1)), Nat.pow_add 2 1, Nat.pow_one, Nat.mul_assoc]
        _ ≤ 2 ^ (3 * (e + 1)) := Nat.pow_le_pow_right (by norm_num) (by omega)
        _ ≤ 10 ^ (e + 1) := ten_pow_ge (e + 1)
    · rfl

theorem magnitude_ofDecimal (negative : Bool) (digits : Nat) (exponent : Int) :
    (ofDecimal negative digits exponent).magnitude =
      nearestMagnitude (digits * 10 ^ exponent.toNat) (10 ^ (-exponent).toNat) := by
  rw [ofDecimal_eq_ofRatio, ofRatio, magnitude_ofMagnitude _ (nearestMagnitude_lt _ _)]

theorem magnitude_ofDecimal_zero (negative : Bool) (exponent : Int) :
    (ofDecimal negative 0 exponent).magnitude = 0 := by
  rw [magnitude_ofDecimal, Nat.zero_mul]
  apply nearestMagnitude_of_small
  rw [Nat.zero_mul, Nat.mul_zero]
  positivity

/-- Zeros at the end of the digits only move the exponent. -/
theorem ofDecimal_mul_pow (negative : Bool) (digits zeros : Nat) (exponent : Int) :
    ofDecimal negative (digits * 10 ^ zeros) exponent =
      ofDecimal negative digits (exponent + zeros) := by
  have exponents : zeros + exponent.toNat + (-(exponent + zeros)).toNat =
      (exponent + zeros).toNat + (-exponent).toNat := by omega
  rw [ofDecimal_eq_ofRatio, ofDecimal_eq_ofRatio]
  refine congrArg (ofMagnitude negative) (nearestMagnitude_congr (by positivity) (by positivity) ?_)
  rw [Nat.mul_assoc, Nat.mul_assoc, Nat.mul_assoc, ← Nat.pow_add, ← Nat.pow_add, ← Nat.pow_add,
    ← exponents, Nat.add_assoc]

/-- A decimal with the magnitude of a number reads as that number under its sign. -/
theorem ofDecimal_eq_of_magnitude {x : Binary64} {digits : Nat} {exponent : Int}
    (same : (ofDecimal false digits exponent).magnitude = x.magnitude) :
    ofDecimal x.isNegative digits exponent = x := by
  rw [magnitude_ofDecimal] at same
  rw [ofDecimal_eq_ofRatio, ofRatio, same, ofMagnitude_isNegative_magnitude]

end CompletionCache.Binary64
