import CompletionCache.Entry
import CompletionCache.Proofs.Decimal.Whole
import CompletionCache.Proofs.Json.Record

/-!
# Instants of documents

A document writes an instant as binary64 seconds. As long as its seconds are below `2 ^ 53`, what is
read back lies between the whole seconds around it, and a whole second is read back as itself
(`ofSeconds?_toSeconds`). An instant before the epoch is written as the epoch.
-/

set_option autoImplicit false

namespace CompletionCache

open Binary64 (ofRatio)

namespace Instant

/-! ## Seconds -/

/-- The part of a second is rounded to at most one, and no part to nothing. -/
theorem units_div_second {rest : Nat} (part : rest ≤ nanosPerSecond) :
    ((Binary64.ofNat rest).div (Binary64.ofNat nanosPerSecond)).units ≤ 1 * 2 ^ 1074 ∧
      (rest = 0 → ((Binary64.ofNat rest).div (Binary64.ofNat nanosPerSecond)).units = 0) := by
  have second : nanosPerSecond ≤ 2 ^ 53 := by decide
  obtain ⟨restUnits, -⟩ := Binary64.units_ofNat (Nat.le_trans part second)
  obtain ⟨secondUnits, -⟩ := Binary64.units_ofNat second
  obtain ⟨oneUnits, -⟩ := Binary64.units_ofNat (n := 1) (by norm_num)
  rw [Binary64.div, restUnits, secondUnits]
  constructor
  · -- The quotient of a second by itself is the number one.
    have whole : (ofRatio false (nanosPerSecond * 2 ^ 1074) (nanosPerSecond * 2 ^ 1074)) =
        Binary64.ofNat 1 := by
      rw [Binary64.ofNat, ofRatio, ofRatio]
      refine congrArg _ (Binary64.nearestMagnitude_congr ?_ Nat.one_pos ?_)
      · exact Nat.mul_pos (by decide) (Nat.two_pow_pos _)
      · rw [Nat.mul_one, Nat.one_mul]
    rw [← oneUnits, ← whole]
    apply Binary64.units_mono
    rw [ofRatio, ofRatio, Binary64.magnitude_ofMagnitude _ (Binary64.nearestMagnitude_lt _ _),
      Binary64.magnitude_ofMagnitude _ (Binary64.nearestMagnitude_lt _ _)]
    exact Binary64.nearestMagnitude_mono (Nat.mul_le_mul_right _ part) _
  · rintro rfl
    rw [Nat.zero_mul, ofRatio, Binary64.nearestMagnitude_of_small]
    · decide
    · rw [Nat.zero_mul]
      exact Nat.mul_pos (by decide) (Nat.two_pow_pos _)

theorem toSeconds_natCast (nanos : Nat) :
    toSeconds (nanos : Int) = (Binary64.ofNat (nanos / nanosPerSecond)).add
      ((Binary64.ofNat (nanos % nanosPerSecond)).div (Binary64.ofNat nanosPerSecond)) := rfl

/-- The seconds of an instant lie between the whole seconds around it. -/
theorem units_toSeconds {nanos : Nat} (small : nanos / nanosPerSecond < 2 ^ 53) :
    nanos / nanosPerSecond * 2 ^ 1074 ≤ (toSeconds nanos).units ∧
      (toSeconds nanos).units ≤ (nanos / nanosPerSecond + 1) * 2 ^ 1074 ∧
      (toSeconds nanos).isFinite = true ∧
      (nanos % nanosPerSecond = 0 →
        (toSeconds nanos).units = nanos / nanosPerSecond * 2 ^ 1074) := by
  obtain ⟨wholeUnits, -⟩ := Binary64.units_ofNat (Nat.le_of_lt small)
  obtain ⟨partBound, partNone⟩ :=
    units_div_second (Nat.le_of_lt (Nat.mod_lt nanos (show 0 < nanosPerSecond by decide)))
  rw [toSeconds_natCast, Binary64.add, wholeUnits, Nat.pow_eq]
  generalize ((Binary64.ofNat (nanos % nanosPerSecond)).div
    (Binary64.ofNat nanosPerSecond)).units = part at partBound partNone
  have sumAbove : nanos / nanosPerSecond * 2 ^ 1074 ≤
      nanos / nanosPerSecond * 2 ^ 1074 + part := Nat.le_add_right _ _
  have sumBelow : nanos / nanosPerSecond * 2 ^ 1074 + part ≤
      (nanos / nanosPerSecond + 1) * 2 ^ 1074 := by
    rw [Nat.add_mul]
    exact Nat.add_le_add_left partBound _
  obtain ⟨above, below, finite⟩ := Binary64.units_ofRatio_bounds small sumAbove sumBelow
  refine ⟨above, below, finite, ?_⟩
  intro none
  rw [partNone none, Nat.add_zero, ← Binary64.ofNat_eq_ofRatio, wholeUnits]

/-- The seconds of an instant carry no sign. -/
theorem isNegative_toSeconds (instant : Instant) : (toSeconds instant).isNegative = false := by
  have unsigned : ∀ num den, (ofRatio false num den).isNegative = false := by
    intro num den
    have small := Binary64.nearestMagnitude_lt num den
    rw [ofRatio, Binary64.ofMagnitude, Binary64.isNegative, UInt64.toNat_ofNat', Nat.pow_eq]
    exact decide_eq_false (by simp only [Bool.false_eq_true, if_false]; omega)
  cases instant with
  | ofNat nanos => exact unsigned _ _
  | negSucc nanos => rfl

/-- An instant is read back between the whole seconds around it, and a whole second as itself. -/
theorem ofSeconds?_toSeconds {nanos : Nat} (small : nanos / nanosPerSecond < 2 ^ 53) :
    ∃ read : Nat, ofSeconds? (toSeconds nanos) = some (read : Int) ∧
      nanos / nanosPerSecond * nanosPerSecond ≤ read ∧
      (nanos % nanosPerSecond = 0 → read = nanos) := by
  obtain ⟨above, below, finite, whole⟩ := units_toSeconds small
  -- Units that are whole seconds are so many nanoseconds, with nothing to round.
  have exact : ∀ seconds : Nat,
      Binary64.roundHalfEven (seconds * 2 ^ 1074 * nanosPerSecond) (2 ^ 1074) =
        seconds * nanosPerSecond := by
    intro seconds
    rw [Nat.mul_right_comm]
    exact Binary64.roundHalfEven_mul_self (Nat.two_pow_pos _) _
  have least := Binary64.roundHalfEven_mono (Nat.mul_le_mul_right nanosPerSecond above) (2 ^ 1074)
  have greatest := Binary64.roundHalfEven_mono (Nat.mul_le_mul_right nanosPerSecond below) (2 ^ 1074)
  rw [exact] at least greatest
  have fits : (Binary64.roundHalfEven ((toSeconds nanos).units * nanosPerSecond) (2 ^ 1074) : Int) <
      clockEnd := by
    have limit : (nanos / nanosPerSecond + 1) * nanosPerSecond < 2 ^ 63 * nanosPerSecond :=
      Nat.mul_lt_mul_of_pos_right (by omega) (by decide)
    have clock : clockEnd = ((2 ^ 63 * nanosPerSecond : Nat) : Int) := by decide
    rw [clock]
    exact Int.ofNat_lt.2 (Nat.lt_of_le_of_lt greatest limit)
  refine ⟨_, ?_, least, ?_⟩
  · rw [ofSeconds?, Nat.pow_eq]
    exact if_pos ⟨finite, .inl (isNegative_toSeconds nanos), fits⟩
  · intro none
    have split := Nat.div_add_mod' nanos nanosPerSecond
    rw [whole none, exact]
    omega

theorem ofSeconds?_toSeconds_negSucc (nanos : Nat) :
    ofSeconds? (toSeconds (.negSucc nanos)) = some 0 := by
  have epoch : ofSeconds? .zero = some 0 := by decide +kernel
  exact epoch

/-- An instant before `2 ^ 53` seconds is read back less than a second too early, and a whole second
since the epoch is read back as itself. -/
theorem exists_ofSeconds?_toSeconds {instant : Instant}
    (early : instant < (2 ^ 53 * nanosPerSecond : Nat)) :
    ∃ read, ofSeconds? (toSeconds instant) = some read ∧ instant - nanosPerSecond < read ∧
      ∀ seconds : Nat, instant = (seconds * nanosPerSecond : Nat) → read = instant := by
  cases instant with
  | ofNat nanos =>
    have small : nanos / nanosPerSecond < 2 ^ 53 :=
      (Nat.div_lt_iff_lt_mul (by decide)).2 (Int.ofNat_lt.1 early)
    obtain ⟨read, same, least, whole⟩ := ofSeconds?_toSeconds small
    have split := Nat.div_add_mod' nanos nanosPerSecond
    have part := Nat.mod_lt nanos (show 0 < nanosPerSecond by decide)
    have late : nanos < read + nanosPerSecond := by
      calc nanos = nanos / nanosPerSecond * nanosPerSecond + nanos % nanosPerSecond := split.symm
        _ < read + nanosPerSecond := Nat.add_lt_add_of_le_of_lt least part
    refine ⟨read, same, ?_, ?_⟩
    · show (nanos : Int) - (nanosPerSecond : Int) < (read : Int)
      omega
    · intro seconds exact
      have multiple : nanos = seconds * nanosPerSecond := Int.ofNat.inj exact
      rw [whole (by rw [multiple, Nat.mul_mod_left])]
      rfl
  | negSucc nanos =>
    -- Everything before the epoch is written as the epoch.
    have past := Int.negSucc_lt_zero nanos
    refine ⟨0, ofSeconds?_toSeconds_negSucc nanos, ?_, ?_⟩
    · show Int.negSucc nanos - (nanosPerSecond : Int) < 0
      omega
    · intro seconds impossible
      cases impossible

end Instant

/-! ## Reading -/

theorem Entry.readInstant_ofBinary64 {seconds : Binary64} {instant : Instant}
    (read : Instant.ofSeconds? seconds = some instant) :
    Entry.readInstant (.ofBinary64 seconds) = .ok instant := by
  have limits := read
  rw [Instant.ofSeconds?, Option.ite_none_right_eq_some] at limits
  obtain ⟨⟨finite, unsigned, -⟩, -⟩ := limits
  have signed : (seconds.isNegative && seconds.magnitude != 0) = false := by
    rcases unsigned with unsigned | zero
    · rw [unsigned, Bool.false_and]
    · rw [zero]
      exact Bool.and_false _
  rw [Json.ofBinary64, if_pos finite]
  apply Json.bind_eq_ok.2
  refine ⟨seconds, rfl, ?_⟩
  simp only [finite, signed, read]
  rfl

end CompletionCache
