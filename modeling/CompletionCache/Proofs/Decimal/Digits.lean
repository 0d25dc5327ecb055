import CompletionCache.Decimal.Digits
import CompletionCache.Positional
import CompletionCache.Proofs.Decimal.Rounding
import Mathlib.Data.List.TakeWhile

/-!
# The digits of a number read back

`Binary64.decimal` always gives a decimal that reads back as its number (`readsBack_decimal`): a
grid wins only with a neighbour that does, and the exact expansion stands behind them all. `digits`
moves the zeros at its end into the exponent, so its digits write the same number
(`ofDecimal_digits`), begin with no zero (`digits_cons`), and keep the exponent of the first digit
small (`leading_bounds`).
-/

set_option autoImplicit false

namespace CompletionCache

/-! ## Decimal digits -/

namespace Positional

theorem decimal_eq_ofDigitChars (digits : List Char) :
    decimal digits = Nat.ofDigitChars 10 digits 0 := by
  rw [Nat.ofDigitChars_eq_foldl]
  rfl

@[simp] theorem decimal_toDigits (n : Nat) : decimal (Nat.toDigits 10 n) = n := by
  rw [decimal_eq_ofDigitChars, Nat.ofDigitChars_ten_toDigits]

theorem decimal_append (front back : List Char) :
    decimal (front ++ back) = decimal front * 10 ^ back.length + decimal back := by
  simp only [decimal_eq_ofDigitChars, Nat.ofDigitChars_append]
  rw [Nat.ofDigitChars_eq_ofDigitChars_zero, Nat.mul_comm]

@[simp] theorem decimal_zeros (n : Nat) : decimal (List.replicate n '0') = 0 := by
  rw [decimal_eq_ofDigitChars, Nat.ofDigitChars_replicate_zero, Nat.mul_zero]

theorem isDigit_of_mem_toDigits {n : Nat} {c : Char} (mem : c ∈ Nat.toDigits 10 n) :
    c.isDigit = true :=
  Nat.isDigit_of_mem_toDigits (by norm_num) (by norm_num) mem

/-- A positive number is written without zeros in front. -/
theorem toDigits_of_pos {n : Nat} (positive : 0 < n) :
    ∃ first rest, Nat.toDigits 10 n = first :: rest ∧ first ≠ '0' := by
  induction n using Nat.strongRecOn with
  | ind n ih =>
    rcases Nat.lt_or_ge n 10 with short | long
    · refine ⟨n.digitChar, [], Nat.toDigits_of_lt_base short, ?_⟩
      intro isZero
      have value := Nat.toNat_digitChar_sub_48_of_lt_ten short
      rw [isZero] at value
      have zero : '0'.toNat - 48 = 0 := rfl
      omega
    · obtain ⟨first, rest, written, nonzero⟩ := ih (n / 10) (by omega) (by omega)
      refine ⟨first, rest ++ [(n % 10).digitChar], ?_, nonzero⟩
      rw [Nat.toDigits_of_base_le (by norm_num) long, written]
      rfl

end Positional

/-! ## Neighbours on a grid -/

namespace Binary64

theorem readsBack_iff (x : Binary64) (digits : Nat) (exponent : Int) :
    x.readsBack digits exponent = true ↔
      (ofDecimal false digits exponent).magnitude = x.magnitude := by
  simp [readsBack]

/-- A neighbour that wins on a grid reads back, and it is close to the exact value. -/
theorem onGrid_eq_some {x : Binary64} {count value : Nat} {exponent : Int}
    (found : x.onGrid count = some (value, exponent)) :
    x.readsBack value exponent = true ∧ exponent = x.decimalExponent - count + 1 ∧
      value ≤ (x.overPowerOfTen exponent).1 + 1 := by
  have close : ∀ num den : Nat, roundHalfEven num den ≤ num + 1 ∧ num / den + 1 ≤ num + 1 := by
    intro num den
    have := roundHalfEven_le num den
    have := Nat.div_le_self num den
    omega
  unfold onGrid at found
  dsimp only at found
  generalize x.decimalExponent - count + 1 = power at found
  -- The exact quotient stays a variable: written out, it is a number of a thousand bits.
  generalize quotient : x.overPowerOfTen power = ratio at found
  obtain ⟨num, den⟩ := ratio
  obtain ⟨nearestClose, aboveClose⟩ := close num den
  split_ifs at found with nearest
  · cases found
    rw [quotient]
    exact ⟨nearest, rfl, nearestClose⟩
  all_goals
    cases found
    rw [quotient]
    refine ⟨by assumption, rfl, ?_⟩
    dsimp only at aboveClose ⊢
    omega

theorem mul_five_pow (units n : Nat) : units * Nat.pow 5 n * 2 ^ n = units * 10 ^ n := by
  rw [Nat.pow_eq, Nat.mul_assoc, ← Nat.mul_pow]

theorem magnitude_ofDecimal_neg (digits n : Nat) :
    (ofDecimal false digits (-n)).magnitude = nearestMagnitude digits (10 ^ n) := by
  rw [magnitude_ofDecimal, Int.toNat_neg_natCast, Int.neg_neg, Int.toNat_natCast, Nat.pow_zero,
    Nat.mul_one]

/-- The exact expansion reads back: its digits are the units times a power of five. -/
theorem readsBack_units {x : Binary64} (finite : x.isFinite = true) :
    x.readsBack (x.units * Nat.pow 5 1074) (-1074) = true := by
  have places : (-1074 : Int) = -((1074 : Nat) : Int) := rfl
  rw [readsBack_iff, ← nearestMagnitude_units finite, places, magnitude_ofDecimal_neg]
  exact nearestMagnitude_congr (Nat.pow_pos (by norm_num)) (Nat.two_pow_pos _)
    (mul_five_pow x.units 1074)

/-- Whichever grid wins, the decimal reads back. -/
theorem readsBack_decimal {x : Binary64} (finite : x.isFinite = true) :
    x.readsBack x.decimal.1 x.decimal.2 = true := by
  rw [decimal]
  cases search : (List.range 17).findSome? fun n => x.onGrid (n + 1) with
  | none => exact readsBack_units finite
  | some found =>
    obtain ⟨n, -, wins⟩ := List.exists_of_findSome?_eq_some search
    exact (onGrid_eq_some wins).1

theorem ofDecimal_decimal {x : Binary64} (finite : x.isFinite = true) :
    ofDecimal x.isNegative x.decimal.1 x.decimal.2 = x :=
  ofDecimal_eq_of_magnitude ((readsBack_iff x _ _).1 (readsBack_decimal finite))

theorem decimal_pos {x : Binary64} (finite : x.isFinite = true) (nonzero : x.magnitude ≠ 0) :
    0 < x.decimal.1 := by
  apply Nat.pos_of_ne_zero
  intro zero
  have reads := (readsBack_iff x _ _).1 (readsBack_decimal finite)
  rw [zero, magnitude_ofDecimal_zero] at reads
  exact nonzero reads.symm

/-! ## Zeros at the end -/

theorem takeWhile_zero_eq_replicate (text : List Char) :
    text.takeWhile (· == '0') = List.replicate (text.takeWhile (· == '0')).length '0' := by
  refine List.eq_replicate_iff.2 ⟨rfl, ?_⟩
  intro c mem
  simpa using List.mem_takeWhile_imp mem

theorem take_append_zeros (text : List Char) :
    text.take (text.length - (text.reverse.takeWhile (· == '0')).length) ++
      List.replicate (text.reverse.takeWhile (· == '0')).length '0' = text := by
  have padding := takeWhile_zero_eq_replicate text.reverse
  have split : text = (text.reverse.dropWhile (· == '0')).reverse ++
      List.replicate (text.reverse.takeWhile (· == '0')).length '0' := by
    rw [← List.reverse_replicate, ← padding, ← List.reverse_append,
      List.takeWhile_append_dropWhile, List.reverse_reverse]
  generalize (text.reverse.takeWhile (· == '0')).length = zeros at split ⊢
  generalize (text.reverse.dropWhile (· == '0')).reverse = front at split
  rw [split, List.length_append, List.length_replicate, Nat.add_sub_cancel, List.take_left' rfl]

/-- The digits of `decimal` are those of `digits` and then the zeros that the exponent counts. -/
theorem toDigits_decimal (x : Binary64) :
    ∃ zeros : Nat, Nat.toDigits 10 x.decimal.1 = x.digits.digits ++ List.replicate zeros '0' ∧
      x.digits.exponent = x.decimal.2 + zeros := by
  rw [digits]
  generalize x.decimal = decimal
  obtain ⟨value, exponent⟩ := decimal
  refine ⟨_, ?_, rfl⟩
  exact (take_append_zeros (Nat.toDigits 10 value)).symm

/-- The digits of a number that is not zero begin with no zero. -/
theorem digits_cons {x : Binary64} (finite : x.isFinite = true) (nonzero : x.magnitude ≠ 0) :
    ∃ first rest, x.digits.digits = first :: rest ∧ first ≠ '0' := by
  obtain ⟨zeros, split, -⟩ := toDigits_decimal x
  obtain ⟨first, rest, written, leading⟩ := Positional.toDigits_of_pos (decimal_pos finite nonzero)
  rw [written] at split
  cases digits : x.digits.digits with
  | nil =>
    -- Digits that are all zeros would have a zero in front.
    rw [digits, List.nil_append] at split
    have mem : first ∈ List.replicate zeros '0' := split ▸ List.mem_cons_self
    exact absurd (List.eq_of_mem_replicate mem) leading
  | cons front back =>
    rw [digits, List.cons_append] at split
    cases split
    exact ⟨first, back, rfl, leading⟩

theorem isDigit_of_mem_digits {x : Binary64} {c : Char} (mem : c ∈ x.digits.digits) :
    c.isDigit = true := by
  obtain ⟨zeros, split, -⟩ := toDigits_decimal x
  refine Positional.isDigit_of_mem_toDigits (n := x.decimal.1) ?_
  rw [split]
  exact List.mem_append_left _ mem

/-- The digits write the number. -/
theorem ofDecimal_digits {x : Binary64} (finite : x.isFinite = true) :
    ofDecimal x.isNegative (Positional.decimal x.digits.digits) x.digits.exponent = x := by
  obtain ⟨zeros, split, exponent⟩ := toDigits_decimal x
  have value : x.decimal.1 = Positional.decimal x.digits.digits * 10 ^ zeros := by
    rw [← Positional.decimal_toDigits x.decimal.1, split, Positional.decimal_append]
    simp
  calc ofDecimal x.isNegative (Positional.decimal x.digits.digits) x.digits.exponent
      = ofDecimal x.isNegative x.decimal.1 x.decimal.2 := by
        rw [exponent, value, ofDecimal_mul_pow]
    _ = x := ofDecimal_decimal finite

/-! ## Small exponents

The exponent of the first digit is far from the limit at which a reader of exponents gives up. The
bounds are generous: a finite number has at most 2098 bits of units. -/

theorem units_lt {x : Binary64} (finite : x.isFinite = true) : x.units < 10 ^ 2098 := by
  have below : x.magnitude < 2047 * 2 ^ 52 := of_decide_eq_true finite
  have fraction := Nat.mod_lt x.magnitude (Nat.two_pow_pos 52)
  have exponent : x.magnitude / 2 ^ 52 - 1 ≤ 2045 := by omega
  have bits : x.units ≤ (2 ^ 52 + x.magnitude % 2 ^ 52) * 2 ^ (x.magnitude / 2 ^ 52 - 1) := by
    by_cases subnormal : x.magnitude / 2 ^ 52 = 0
    · have split := Nat.div_add_mod x.magnitude (2 ^ 52)
      rw [units_of_subnormal subnormal, subnormal]
      omega
    · exact Nat.le_of_eq (units_of_normal subnormal)
  calc x.units ≤ (2 ^ 52 + x.magnitude % 2 ^ 52) * 2 ^ (x.magnitude / 2 ^ 52 - 1) := bits
    _ < 10 ^ 53 * 2 ^ (x.magnitude / 2 ^ 52 - 1) :=
      Nat.mul_lt_mul_of_pos_right (by omega) (Nat.two_pow_pos _)
    _ ≤ 10 ^ 53 * 10 ^ 2045 := by
      apply Nat.mul_le_mul_left
      calc 2 ^ (x.magnitude / 2 ^ 52 - 1) ≤ 10 ^ (x.magnitude / 2 ^ 52 - 1) :=
            Nat.pow_le_pow_left (by norm_num) _
        _ ≤ 10 ^ 2045 := Nat.pow_le_pow_right (by norm_num) exponent
    _ = 10 ^ 2098 := by rw [← Nat.pow_add]

theorem digitCount_le {n limit : Nat} (positive : 0 < limit) (small : n < 10 ^ limit) :
    digitCount n ≤ limit :=
  (Nat.length_toDigits_le_iff (by norm_num) positive).2 small

theorem decimalExponent_bounds {x : Binary64} (finite : x.isFinite = true) :
    -1074 ≤ x.decimalExponent ∧ x.decimalExponent ≤ 2098 := by
  have oneSmall : Nat.pow 2 1074 ≤ 10 ^ 1074 := Nat.pow_le_pow_left (by norm_num) 1074
  have onePos : 0 < Nat.pow 2 1074 := Nat.two_pow_pos 1074
  rw [decimalExponent]
  generalize Nat.pow 2 1074 = one at oneSmall onePos ⊢
  split_ifs with whole
  · have count : digitCount (x.units / one) ≤ 2098 :=
      digitCount_le (by norm_num) (Nat.lt_of_le_of_lt (Nat.div_le_self _ _) (units_lt finite))
    omega
  -- Below one, the count is that of the zeros behind the point, as many as a unit has at most.
  · have quotient : (one + x.units - 1) / x.units ≤ one := by
      rcases Nat.eq_zero_or_pos x.units with zero | positive
      · rw [zero, Nat.div_zero]
        exact Nat.zero_le _
      · apply Nat.div_le_of_le_mul
        obtain ⟨more, unitsEq⟩ : ∃ more, x.units = more + 1 := ⟨x.units - 1, by omega⟩
        rw [unitsEq, Nat.add_mul, Nat.one_mul]
        have := Nat.le_mul_of_pos_right more onePos
        omega
    have count : digitCount ((one + x.units - 1) / x.units - 1) ≤ 1074 :=
      digitCount_le (by norm_num) (by omega)
    omega

/-- The digits of a decimal are not many and its exponent is not low. -/
theorem decimal_bounds {x : Binary64} (finite : x.isFinite = true) :
    x.decimal.1 < 10 ^ 4000 ∧ -2000 ≤ x.decimal.2 ∧ x.decimal.2 ≤ 2098 := by
  have small := units_lt finite
  rw [decimal]
  cases search : (List.range 17).findSome? fun n => x.onGrid (n + 1) with
  | none =>
    -- No grid wins: the exact expansion is taken.
    refine ⟨?_, by norm_num, by norm_num⟩
    calc x.units * Nat.pow 5 1074 < 10 ^ 2098 * 10 ^ 1074 :=
          Nat.mul_lt_mul_of_lt_of_le small (Nat.pow_le_pow_left (by norm_num) 1074) (by positivity)
      _ ≤ 10 ^ 4000 := by
          rw [← Nat.pow_add]
          exact Nat.pow_le_pow_right (by norm_num) (by norm_num)
  | some found =>
    obtain ⟨value, exponent⟩ := found
    obtain ⟨n, inRange, wins⟩ := List.exists_of_findSome?_eq_some search
    obtain ⟨-, power, close⟩ := onGrid_eq_some wins
    have count := List.mem_range.1 inRange
    obtain ⟨low, high⟩ := decimalExponent_bounds finite
    refine ⟨?_, by dsimp only [Option.getD_some]; omega, by dsimp only [Option.getD_some]; omega⟩
    -- A winner is near the exact quotient, whose numerator gains few digits by its power of ten.
    have numerator : (x.overPowerOfTen exponent).1 ≤ x.units * 10 ^ 1100 := by
      cases exponent with
      | ofNat e => exact Nat.le_mul_of_pos_right _ (by positivity)
      | negSucc e =>
        exact Nat.mul_le_mul_left _ (Nat.pow_le_pow_right (by norm_num) (by omega))
    calc value ≤ x.units * 10 ^ 1100 + 1 := Nat.le_trans close (Nat.succ_le_succ numerator)
      _ ≤ 10 ^ 2098 * 10 ^ 1100 := Nat.mul_lt_mul_of_pos_right small (Nat.pow_pos (by norm_num))
      _ < 10 ^ 4000 := by
        rw [← Nat.pow_add]
        exact Nat.pow_lt_pow_right (by norm_num) (by norm_num)

/-- The power of ten of the first digit is small. -/
theorem leading_bounds {x : Binary64} (finite : x.isFinite = true) (nonzero : x.magnitude ≠ 0) :
    -10000 ≤ x.digits.leading ∧ x.digits.leading ≤ 10000 := by
  obtain ⟨zeros, split, exponent⟩ := toDigits_decimal x
  obtain ⟨first, rest, digits, -⟩ := digits_cons finite nonzero
  obtain ⟨small, low, high⟩ := decimal_bounds finite
  have length := digitCount_le (by norm_num) small
  rw [digitCount, split, List.length_append, List.length_replicate] at length
  have positive : 0 < x.digits.digits.length := by
    rw [digits]
    exact Nat.succ_pos _
  rw [Digits.leading, exponent]
  omega

end Binary64

end CompletionCache
