import CompletionCache.Proofs.SharedCache.Capacity
import CompletionCache.Proofs.Store.Selection

/-!
# What a write leaves

A write to a cache with a capacity goes over the keys of the cache, asks for their remaining times and
deletes those that are too many, over whichever pages the keys come and in however many commands. What is
left is the store behind the write itself, trimmed to the capacity (`set_trims_to_capacity`): the deleted
keys are the closest to their expiry, and the keys of others are never touched.
-/

set_option autoImplicit false

namespace CompletionCache.SharedCache

variable {paging : Keyspace.Paging} {cache connected served : SharedCache}
  {space before after : Keyspace} {clocks : Clocks} {key : String} {response : Response} {model : String}
  {tokens : UInt64} {maxSize : UInt64}

/-- What is written changes nothing under the keys of others. -/
theorem agreeOn_written :
    Keyspace.AgreeOn (fun other => ¬ BeginsWith cache.store.keyPrefix other)
      (written cache space clocks.wall key response model tokens) space :=
  Keyspace.agreeOn_put (not_not.2 (beginsWith_append _ _)) _

/-- When the entry has been written and there are more keys of the cache than its capacity, those that are
closest to their expiry are deleted, so that as many as the capacity remain; otherwise none is. Nothing
happens to the keys of others. -/
theorem set_trims_to_capacity (fair : paging.Fair) (bounded : cache.config.maxSize = some maxSize)
    (wrote : (trySet (Keyspace.store paging) clocks key response model tokens).run.run (cache, space) =
      (.ok (), connected, before))
    (done : (backend (Keyspace.store paging)).step (cache, space)
      ⟨clocks, .set key response model tokens⟩ = (served, after)) :
    Keyspace.Trimmed cache.store.keyPrefix maxSize.toNat before after ∧
      Keyspace.AgreeOn (fun other => ¬ BeginsWith cache.store.keyPrefix other) after space := by
  have ok : ((trySet (Keyspace.store paging) clocks key response model tokens).run.run
      (cache, space)).1 = .ok () := by rw [wrote]
  have stored : before = written cache space clocks.wall key response model tokens := by
    have ran := run_trySet_of_ok ok
    rw [wrote] at ran
    exact congrArg (·.2.2) ran
  have left : after = (before.deleteAll
      (Eviction.select (before.ranked cache.store.keyPrefix) maxSize.toNat)).2 := by
    rw [step_set, run_set_bounded fair bounded ok] at done
    rw [stored]
    exact (congrArg (·.2) done).symm
  rw [left]
  refine ⟨Keyspace.trimmed_deleteAll before cache.store.keyPrefix maxSize.toNat, ?_⟩
  -- Neither the write nor the deletions are about the keys of others.
  rw [stored]
  exact (Keyspace.agreeOn_deleteAll_selected _ _ _).trans agreeOn_written

/-- All keys on one page, and once more on another one. -/
def everyKeyTwice : Keyspace.Paging := ⟨fun keys => [(0, keys), (1, keys)]⟩

theorem fair_everyKeyTwice : everyKeyTwice.Fair where
  first keys := ⟨keys, [(1, keys)], rfl⟩
  nodup keys := by
    change [(0 : UInt64), 1].Nodup
    decide
  covers keys key := by simp [everyKeyTwice]

/-- A cache for two keys, which live for a minute. -/
def twoKeyCache : SharedCache :=
  ⟨{ Config.default with ttl := 60, maxSize := some 2 }, .ofUrl "redis://localhost", false, none,
    0, 0, 0⟩

/-- A store with a key that expires soon, one that expires later, one that never does, and the key of
somebody else. -/
def severalExpiries : Keyspace :=
  ⟨[("cache:a", ⟨"[]", some (30 * nanosPerSecond : Nat)⟩), ("cache:b", ⟨"[]", none⟩),
    ("cache:c", ⟨"[]", some (90 * nanosPerSecond : Nat)⟩), ("other", ⟨"[]", some 1⟩)], 0⟩

/-- Of four keys that are listed twice two remain, and the key that has just been written is not among
them; the key of somebody else stays, however close it is to its expiry. -/
theorem set_trims_several_expiries :
    ∃ served before after,
      (trySet (Keyspace.store everyKeyTwice) ⟨0, 0⟩ "d" (.ofText "text") "m" 3).run.run
        (twoKeyCache, severalExpiries) = (.ok (), twoKeyCache.connected, before) ∧
      (backend (Keyspace.store everyKeyTwice)).step (twoKeyCache, severalExpiries)
        ⟨⟨0, 0⟩, .set "d" (.ofText "text") "m" 3⟩ = (served, after) ∧
      (before.keysUnder "cache:").ncard = 4 ∧ (after.keysUnder "cache:").ncard = 2 ∧
      after.contains "cache:d" = false ∧ (after.showing 0).find? "other" = some ⟨"[]", some 1⟩ := by
  have bounded : twoKeyCache.config.maxSize = some 2 := rfl
  have ok : ((trySet (Keyspace.store everyKeyTwice) ⟨0, 0⟩ "d" (.ofText "text") "m" 3).run.run
      (twoKeyCache, severalExpiries)).1 = .ok () := rfl
  have wrote := run_trySet_of_ok ok
  have done := step_set (Keyspace.store everyKeyTwice) (twoKeyCache, severalExpiries) ⟨0, 0⟩ "d"
    (.ofText "text") "m" 3
  obtain ⟨trimmed, foreign⟩ := set_trims_to_capacity fair_everyKeyTwice bounded wrote done
  have four : ((written twoKeyCache severalExpiries 0 "d" (.ofText "text") "m" 3).keysUnder
      "cache:").ncard = 4 := by
    rw [Keyspace.ncard_keysUnder]
    decide +kernel
  have many : ¬ (severalExpiries.outlasting "cache:" "cache:d" 60).length < 2 := by decide +kernel
  have kept := contains_set_iff fair_everyKeyTwice bounded ok (by decide)
  refine ⟨_, _, _, wrote, done, four, trimmed.full ?_, ?_, ?_⟩
  · change (2 : Nat) < ((written _ _ _ _ _ _ _).keysUnder "cache:").ncard
    rw [four]
    decide
  · exact Bool.eq_false_iff.2 fun there => many (kept.1 there)
  · rw [foreign.find? (by decide) 0]
    decide

end CompletionCache.SharedCache
