import CompletionCache.Proofs.Decimal.Rounding

/-!
# Rounding keeps the order, and whole numbers

A larger quotient is never rounded to a smaller number (`nearestMagnitude_mono`), and the units of
numbers without a sign are ordered as their magnitudes (`units_mono`). A whole number of at most
`2 ^ 53` is a number itself (`units_ofNat`), so a quotient between two of them is rounded to a number
between them (`units_ofRatio_bounds`).
-/

set_option autoImplicit false

namespace CompletionCache.Binary64

/-! ## Order -/

theorem roundHalfEven_mono {num num' : Nat} (order : num ≤ num') (den : Nat) :
    roundHalfEven num den ≤ roundHalfEven num' den := by
  rcases Nat.lt_or_ge (num / den) (num' / den) with below | above
  · calc roundHalfEven num den ≤ num / den + 1 := roundHalfEven_le num den
      _ ≤ num' / den := below
      _ ≤ roundHalfEven num' den := le_roundHalfEven num' den
  · -- With one quotient it is the rests that decide.
    have same : num / den = num' / den := Nat.le_antisymm (Nat.div_le_div_right order) above
    have split := Nat.div_add_mod num den
    have split' := Nat.div_add_mod num' den
    rw [← same] at split'
    simp only [roundHalfEven, ← same]
    split_ifs <;> omega

/-- What is scaled and rounded keeps the order, also across the scales. -/
theorem scaled_mono {num num' : Nat} (order : num ≤ num') (den : Nat) :
    ((num / den).log2 - 52) * 2 ^ 52 + roundHalfEven num (den * 2 ^ ((num / den).log2 - 52)) ≤
      ((num' / den).log2 - 52) * 2 ^ 52 +
        roundHalfEven num' (den * 2 ^ ((num' / den).log2 - 52)) := by
  have quotients : num / den ≤ num' / den := Nat.div_le_div_right order
  have logs : (num / den).log2 ≤ (num' / den).log2 := by
    rcases Nat.eq_zero_or_pos (num / den) with zero | positive
    · rw [zero]
      exact Nat.zero_le _
    · rw [Nat.le_log2 (by omega)]
      exact Nat.le_trans (Nat.log2_self_le (by omega)) quotients
  rcases Nat.lt_or_ge ((num / den).log2 - 52) ((num' / den).log2 - 52) with below | above
  · -- The smaller quotient is carried to the next scale at most, where the larger one begins.
    have leading := roundHalfEven_scaled_le num den
    have leading' := le_roundHalfEven_scaled (show 52 ≤ (num' / den).log2 by omega)
    calc _ ≤ ((num / den).log2 - 52) * 2 ^ 52 + 2 ^ 53 := Nat.add_le_add_left leading _
      _ = ((num / den).log2 - 52 + 1) * 2 ^ 52 + 2 ^ 52 := by ring
      _ ≤ ((num' / den).log2 - 52) * 2 ^ 52 + 2 ^ 52 :=
        Nat.add_le_add_right (Nat.mul_le_mul_right _ below) _
      _ ≤ _ := Nat.add_le_add_left leading' _
  · have same : (num / den).log2 - 52 = (num' / den).log2 - 52 := by omega
    rw [same]
    exact Nat.add_le_add_left (roundHalfEven_mono order _) _

/-- A larger quotient is never rounded to a smaller magnitude. -/
theorem nearestMagnitude_mono {num num' : Nat} (order : num ≤ num') (den : Nat) :
    nearestMagnitude num den ≤ nearestMagnitude num' den := by
  rw [nearestMagnitude_eq, nearestMagnitude_eq]
  apply Nat.le_min.2
  constructor
  · apply Nat.le_trans (Nat.min_le_left _ _)
    exact scaled_mono (Nat.mul_le_mul_right _ order) den
  · exact Nat.min_le_right _ _

theorem units_mono {x y : Binary64} (order : x.magnitude ≤ y.magnitude) : x.units ≤ y.units := by
  have split := Nat.div_add_mod x.magnitude (2 ^ 52)
  have split' := Nat.div_add_mod y.magnitude (2 ^ 52)
  have small := Nat.mod_lt x.magnitude (Nat.two_pow_pos 52)
  by_cases subnormal : x.magnitude / 2 ^ 52 = 0
  · by_cases subnormal' : y.magnitude / 2 ^ 52 = 0
    · rwa [units_of_subnormal subnormal, units_of_subnormal subnormal']
    · -- A subnormal number is smaller than the hidden bit of a normal one.
      rw [units_of_subnormal subnormal, units_of_normal subnormal']
      calc x.magnitude ≤ 2 ^ 52 + y.magnitude % 2 ^ 52 := by omega
        _ ≤ _ := Nat.le_mul_of_pos_right _ (Nat.two_pow_pos _)
  · have normal' : y.magnitude / 2 ^ 52 ≠ 0 := by omega
    rw [units_of_normal subnormal, units_of_normal normal']
    rcases Nat.lt_or_ge (x.magnitude / 2 ^ 52) (y.magnitude / 2 ^ 52) with below | above
    · have exponents : x.magnitude / 2 ^ 52 - 1 + 1 ≤ y.magnitude / 2 ^ 52 - 1 := by omega
      calc _ ≤ 2 ^ 53 * 2 ^ (x.magnitude / 2 ^ 52 - 1) := Nat.mul_le_mul_right _ (by omega)
        _ = 2 ^ 52 * 2 ^ (x.magnitude / 2 ^ 52 - 1 + 1) := by ring
        _ ≤ 2 ^ 52 * 2 ^ (y.magnitude / 2 ^ 52 - 1) :=
          Nat.mul_le_mul_left _ (Nat.pow_le_pow_right Nat.two_pos exponents)
        _ ≤ _ := Nat.mul_le_mul_right _ (Nat.le_add_right _ _)
    · have same : x.magnitude / 2 ^ 52 = y.magnitude / 2 ^ 52 := by omega
      rw [same]
      exact Nat.mul_le_mul_right _ (by omega)

/-! ## Whole numbers -/

/-- Units that are 53 bits and an exponent are those of a number. -/
theorem units_ofRatio_normal {significand exponent : Nat} (low : 2 ^ 52 ≤ significand)
    (high : significand < 2 ^ 53) (fits : exponent < 2046) :
    (ofRatio false (significand * 2 ^ exponent) (2 ^ 1074)).units = significand * 2 ^ exponent ∧
      (ofRatio false (significand * 2 ^ exponent) (2 ^ 1074)).isFinite = true := by
  have magnitudeEq : (ofMagnitude false ((exponent + 1) * 2 ^ 52 + (significand - 2 ^ 52))).magnitude =
      (exponent + 1) * 2 ^ 52 + (significand - 2 ^ 52) := magnitude_ofMagnitude _ (by omega)
  have finite : (ofMagnitude false ((exponent + 1) * 2 ^ 52 + (significand - 2 ^ 52))).isFinite =
      true := by
    rw [isFinite, magnitudeEq, infinityMagnitude, Nat.pow_eq]
    exact decide_eq_true (by omega)
  have unitsEq : (ofMagnitude false ((exponent + 1) * 2 ^ 52 + (significand - 2 ^ 52))).units =
      significand * 2 ^ exponent := by
    have whole : ((exponent + 1) * 2 ^ 52 + (significand - 2 ^ 52)) / 2 ^ 52 = exponent + 1 := by
      omega
    have rest : ((exponent + 1) * 2 ^ 52 + (significand - 2 ^ 52)) % 2 ^ 52 =
        significand - 2 ^ 52 := by
      omega
    rw [units_of_normal (by omega), magnitudeEq, whole, rest, Nat.add_sub_cancel,
      Nat.add_sub_cancel' low]
  have same : ofRatio false (significand * 2 ^ exponent) (2 ^ 1074) =
      ofMagnitude false ((exponent + 1) * 2 ^ 52 + (significand - 2 ^ 52)) := by
    rw [ofRatio, ← unitsEq, nearestMagnitude_units finite, magnitudeEq]
  rw [same]
  exact ⟨unitsEq, finite⟩

theorem ofNat_eq_ofRatio (n : Nat) : ofNat n = ofRatio false (n * 2 ^ 1074) (2 ^ 1074) := by
  rw [ofNat, ofRatio, ofRatio]
  refine congrArg _ (nearestMagnitude_congr Nat.one_pos (Nat.two_pow_pos 1074) ?_)
  rw [Nat.mul_one]

/-- A whole number of at most `2 ^ 53` is a number itself. -/
theorem units_ofNat {n : Nat} (small : n ≤ 2 ^ 53) :
    (ofNat n).units = n * 2 ^ 1074 ∧ (ofNat n).isFinite = true := by
  have normal : ∀ significand exponent : Nat, n * 2 ^ 1074 = significand * 2 ^ exponent →
      2 ^ 52 ≤ significand → significand < 2 ^ 53 → exponent < 2046 →
      (ofNat n).units = n * 2 ^ 1074 ∧ (ofNat n).isFinite = true := by
    intro significand exponent same low high fits
    rw [ofNat_eq_ofRatio, same]
    exact units_ofRatio_normal low high fits
  rcases Nat.eq_zero_or_pos n with rfl | positive
  · have zero : ofNat 0 = ⟨0⟩ := by
      rw [ofNat, ofRatio, nearestMagnitude_of_small (by norm_num)]
      rfl
    rw [zero, Nat.zero_mul]
    exact ⟨by decide, by decide⟩
  rcases Nat.lt_or_ge n (2 ^ 53) with below | above
  · -- The first bit of the number is moved to the place of the hidden bit.
    have low := Nat.log2_self_le (Nat.ne_of_gt positive)
    have high := Nat.lt_log2_self (n := n)
    have logSmall := (Nat.log2_lt (Nat.ne_of_gt positive)).2 below
    have lead : 2 ^ n.log2 * 2 ^ (52 - n.log2) = 2 ^ 52 := by
      rw [← Nat.pow_add, Nat.add_sub_cancel' (by omega)]
    apply normal (n * 2 ^ (52 - n.log2)) (1022 + n.log2)
    · rw [Nat.mul_assoc, ← Nat.pow_add, show 52 - n.log2 + (1022 + n.log2) = 1074 by omega]
    · rw [← lead]
      exact Nat.mul_le_mul_right _ low
    · calc n * 2 ^ (52 - n.log2) < 2 ^ (n.log2 + 1) * 2 ^ (52 - n.log2) :=
            Nat.mul_lt_mul_of_pos_right high (Nat.two_pow_pos _)
        _ = 2 * (2 ^ n.log2 * 2 ^ (52 - n.log2)) := by ring
        _ = 2 ^ 53 := by rw [lead]; norm_num
    · omega
  · have limit : n = 2 ^ 53 := Nat.le_antisymm small above
    apply normal (2 ^ 52) 1075 _ (Nat.le_refl _) (by norm_num) (by norm_num)
    rw [limit, ← Nat.pow_add, ← Nat.pow_add]

/-- A quotient between two whole numbers of at most `2 ^ 53` is rounded to a number between them. -/
theorem units_ofRatio_bounds {low high num : Nat} (small : high ≤ 2 ^ 53)
    (above : low * 2 ^ 1074 ≤ num) (below : num ≤ high * 2 ^ 1074) :
    low * 2 ^ 1074 ≤ (ofRatio false num (2 ^ 1074)).units ∧
      (ofRatio false num (2 ^ 1074)).units ≤ high * 2 ^ 1074 ∧
      (ofRatio false num (2 ^ 1074)).isFinite = true := by
  have ordered : ∀ {a b : Nat}, a ≤ b →
      (ofRatio false a (2 ^ 1074)).magnitude ≤ (ofRatio false b (2 ^ 1074)).magnitude := by
    intro a b order
    rw [ofRatio, ofRatio, magnitude_ofMagnitude _ (nearestMagnitude_lt _ _),
      magnitude_ofMagnitude _ (nearestMagnitude_lt _ _)]
    exact nearestMagnitude_mono order _
  have lowSmall : low ≤ 2 ^ 53 :=
    Nat.le_trans (Nat.le_of_mul_le_mul_right (Nat.le_trans above below) (Nat.two_pow_pos _)) small
  obtain ⟨lowUnits, -⟩ := units_ofNat lowSmall
  obtain ⟨highUnits, highFinite⟩ := units_ofNat small
  rw [ofNat_eq_ofRatio] at lowUnits highUnits highFinite
  refine ⟨?_, ?_, ?_⟩
  · rw [← lowUnits]
    exact units_mono (ordered above)
  · rw [← highUnits]
    exact units_mono (ordered below)
  · rw [isFinite, decide_eq_true_eq] at highFinite ⊢
    exact Nat.lt_of_le_of_lt (ordered below) highFinite

end CompletionCache.Binary64
