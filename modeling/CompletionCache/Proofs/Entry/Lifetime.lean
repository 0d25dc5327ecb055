import CompletionCache.Entry

/-!
# When entries expire

An entry expires when its lifetime is over, if the clock holds that instant. A lifetime that runs past
the end of the clock counts as the longest one allowed, and as none where the clock does not hold that
one either (`expiry_of_fits`, `expiry_of_past`). No entry expires before it is made (`le_expiry`). Of two
lifetimes the longer one ends later, unless the clock holds the end of the shorter one alone and the
shorter one outlasts what the longer one counts as (`expiresAt_le_expiresAt_iff`).
-/

set_option autoImplicit false

namespace CompletionCache.Entry

open Instant (clockEnd)

/-- The longest lifetime that is allowed. -/
def longestLifetime : Duration := Duration.ofSeconds Config.maxTtl.toNat

variable {now : Instant}

/-! ## Where the end of a lifetime lies -/

theorem expiry_of_fits {ttl : Duration} (fits : now + ttl < clockEnd) :
    expiry now ttl = now + ttl := by
  rw [expiry, Instant.addWithin?, if_pos fits]
  rfl

theorem expiry_of_past {ttl : Duration} (past : clockEnd ≤ now + ttl) :
    expiry now ttl = if now + longestLifetime < clockEnd then now + longestLifetime else now := by
  rw [expiry, Instant.addWithin?, if_neg (Int.not_lt.2 past), Option.none_or, Instant.addWithin?,
    ← longestLifetime]
  split <;> rfl

/-- No entry expires before it is made, even when its lifetime runs past the end of the clock. -/
theorem le_expiry (now : Instant) (ttl : Duration) : now ≤ expiry now ttl := by
  have later : ∀ duration : Duration, now ≤ now + duration :=
    fun duration => Int.le_add_of_nonneg_right (Int.natCast_nonneg duration)
  by_cases fits : now + ttl < clockEnd
  · rw [expiry_of_fits fits]
    exact later ttl
  · -- The longest lifetime, or none at all.
    rw [expiry_of_past (Int.not_lt.1 fits)]
    split
    · exact later longestLifetime
    · exact Int.le_refl now

/-! ## Longer and shorter lifetimes -/

theorem add_le_add_iff {duration other : Duration} :
    now + duration ≤ now + other ↔ duration ≤ other :=
  (Int.add_le_add_iff_left now).trans Int.ofNat_le

theorem add_le_self_iff {duration : Duration} : now + duration ≤ now ↔ duration = 0 := by
  have shifted : now + duration ≤ now + (0 : Duration) ↔ duration ≤ 0 := add_le_add_iff
  have zero : now + (0 : Duration) = now := Int.add_zero now
  rw [← Nat.le_zero, ← shifted, zero]

section Order

variable {shorter longer : Duration}

/-- A lifetime that ends within the clock against one that does not. -/
theorem expiry_le_expiry_of_past (fits : now + shorter < clockEnd) (past : clockEnd ≤ now + longer) :
    expiry now shorter ≤ expiry now longer ↔
      shorter = 0 ∨ (shorter ≤ longestLifetime ∧ now + longestLifetime < clockEnd) := by
  rw [expiry_of_fits fits, expiry_of_past past]
  split
  · next holds =>
    rw [add_le_add_iff, and_iff_left holds]
    constructor
    · exact .inr
    · rintro (rfl | allowed)
      · exact Nat.zero_le _
      · exact allowed
  · next beyond =>
    rw [add_le_self_iff, or_iff_left]
    rintro ⟨-, holds⟩
    exact beyond holds

/-- The longer lifetime ends no earlier exactly where the clock holds the end of both lifetimes or of
neither, or the shorter one does not outlast what the longer one counts as. -/
theorem expiry_le_expiry_iff (order : shorter ≤ longer) :
    expiry now shorter ≤ expiry now longer ↔
      now + longer < clockEnd ∨ clockEnd ≤ now + shorter ∨ shorter = 0 ∨
        (shorter ≤ longestLifetime ∧ now + longestLifetime < clockEnd) := by
  have ends : now + shorter ≤ now + longer := add_le_add_iff.2 order
  by_cases holds : now + longer < clockEnd
  · rw [expiry_of_fits (Int.lt_of_le_of_lt ends holds), expiry_of_fits holds]
    exact iff_of_true ends (.inl holds)
  · have past : clockEnd ≤ now + longer := Int.not_lt.1 holds
    rw [or_iff_right holds]
    by_cases fits : now + shorter < clockEnd
    · rw [expiry_le_expiry_of_past fits past, or_iff_right (Int.not_le.2 fits)]
    · -- Both count as the same.
      have neither : clockEnd ≤ now + shorter := Int.not_lt.1 fits
      rw [expiry_of_past neither, expiry_of_past past]
      exact iff_of_true (Int.le_refl _) (.inl neither)

/-- Of two entries that are made at one instant neither expires before that instant, and the one with the
longer lifetime expires no earlier exactly where the clock holds the end of both lifetimes or of neither,
or where the shorter lifetime is nothing, or where it is allowed and the clock holds the end of the
longest lifetime that is. -/
theorem expiresAt_le_expiresAt_iff (order : shorter ≤ longer) (key : String) (response : Response)
    (model : String) (tokens : UInt64) :
    now ≤ (create now key response model tokens shorter).expiresAt ∧
    now ≤ (create now key response model tokens longer).expiresAt ∧
    ((create now key response model tokens shorter).expiresAt ≤
        (create now key response model tokens longer).expiresAt ↔
      now + longer < clockEnd ∨ clockEnd ≤ now + shorter ∨ shorter = 0 ∨
        (shorter ≤ longestLifetime ∧ now + longestLifetime < clockEnd)) :=
  ⟨le_expiry now shorter, le_expiry now longer, expiry_le_expiry_iff order⟩

end Order

/-- A minute ends before a lifetime that runs past the end of the clock. -/
theorem expiresAt_minute :
    Duration.ofSeconds 60 ≤ Duration.ofSeconds 0xFFFFFFFFFFFFFFFF ∧
    (create 0 "k" (.ofText "a") "m" 7 (Duration.ofSeconds 60)).expiresAt ≤
      (create 0 "k" (.ofText "a") "m" 7 (Duration.ofSeconds 0xFFFFFFFFFFFFFFFF)).expiresAt := by
  have order : Duration.ofSeconds 60 ≤ Duration.ofSeconds 0xFFFFFFFFFFFFFFFF := by decide
  obtain ⟨-, -, exactly⟩ := @expiresAt_le_expiresAt_iff 0 _ _ order "k" (.ofText "a") "m" 7
  exact ⟨order, exactly.2 (.inr (.inr (.inr (by decide))))⟩

/-- A lifetime that ends in the last second of the clock outlasts the one that is a second longer. -/
theorem longer_expires_earlier :
    Duration.ofSeconds 9223372035154775807 ≤ Duration.ofSeconds 9223372035154775808 ∧
    (create (Duration.ofSeconds 1700000000) "k" (.ofText "a") "m" 7
        (Duration.ofSeconds 9223372035154775808)).expiresAt <
      (create (Duration.ofSeconds 1700000000) "k" (.ofText "a") "m" 7
        (Duration.ofSeconds 9223372035154775807)).expiresAt := by
  decide

end CompletionCache.Entry
