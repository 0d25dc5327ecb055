import CompletionCache.Proofs.LocalCache.Retention
import CompletionCache.Proofs.LocalCache.WellKept

/-!
# What a write takes away

A write under a capacity takes away what a due sweep finds expired. Of what remains, it takes one entry
more exactly if the table is full and does not hold the written key (`keys_set`), and that is the entry
whose last use came before those of all others, whenever they expire. Everything else stays as it is and
where it is (`set_displaces_oldest`).
-/

set_option autoImplicit false

namespace CompletionCache.LocalCache

open Recency (LastUsedBefore latestFirst)

/-- What is left behind the sweep of an operation: all entries, or, if the sweep is due, those that have
not expired. -/
def remaining (cache : LocalCache) (clocks : Clocks) : Recency Entry :=
  cache.entries.retain fun entry => !(cache.sweepDue clocks && entry.isExpiredAt clocks.wall)

theorem entries_sweep (cache : LocalCache) (clocks : Clocks) :
    (cache.sweep clocks).entries = cache.remaining clocks := by
  rw [sweep, remaining]
  cases cache.sweepDue clocks with
  | true => simp
  | false => simp [Recency.retain]

theorem nodup_keys_remaining {cache : LocalCache} (nodup : cache.entries.keys.Nodup)
    (clocks : Clocks) : (cache.remaining clocks).keys.Nodup :=
  Recency.nodup_keys_retain nodup _

/-- An entry remains unless the sweep is due and finds it expired. -/
theorem mem_keys_remaining_iff {cache : LocalCache} (nodup : cache.entries.keys.Nodup)
    (clocks : Clocks) {key : String} {entry : Entry}
    (found : cache.entries.find? key = some entry) :
    key ∈ (cache.remaining clocks).keys ↔
      ¬(cache.sweepDue clocks = true ∧ entry.isExpiredAt clocks.wall = true) := by
  rw [← Recency.find?_isSome_iff, remaining, Recency.find?_retain nodup, found, Option.filter_some,
    ← Bool.and_eq_true]
  cases cache.sweepDue clocks && entry.isExpiredAt clocks.wall <;> simp

/-- Behind a write the written key stands in front of the keys that remain, but for the one that has to
go. -/
theorem keys_set {cache : LocalCache} (nodup : cache.entries.keys.Nodup) {capacity : Nat}
    (bounded : cache.config.capacity? = some capacity) (fits : cache.size ≤ capacity) (clocks : Clocks)
    (key : String) (response : Response) (model : String) (tokens : UInt64) :
    (cache.set clocks key response model tokens).entries.keys =
      key :: ((cache.remaining clocks).keys.filter (· != key)).filter fun other =>
        decide ((cache.remaining clocks).leaving? capacity key ≠ some other) := by
  have small : (cache.remaining clocks).size ≤ capacity := by
    rw [← entries_sweep]
    exact Nat.le_trans (size_sweep_le cache clocks) fits
  have room := Recency.keys_keepLatest_erase (nodup_keys_remaining nodup clocks) small key
  rw [← config_sweep cache clocks] at bounded
  rw [set, bounded, makeRoom, entries_sweep]
  dsimp only
  rw [Recency.keys_push, room, Recency.keys_erase]
  -- The written key has left its old place already.
  congr 1
  rw [List.filter_filter, List.filter_filter, List.filter_filter]
  apply List.filter_congr
  intro other _
  cases other != key <;> simp

/-- A key that is there makes room for itself. -/
theorem leaving?_remaining_of_mem {cache : LocalCache} {capacity : Nat} (fits : cache.size ≤ capacity)
    {key : String} (held : key ∈ cache.entries.keys) (clocks : Clocks) :
    (cache.remaining clocks).leaving? capacity key = none := by
  rw [Recency.leaving?, if_neg]
  rintro ⟨swept, full⟩
  -- If the sweep took it away, there is room; if it did not, it is still there.
  have sublist := Recency.items_retain_sublist cache.entries
    fun entry => !(cache.sweepDue clocks && entry.isExpiredAt clocks.wall)
  have whole : (cache.remaining clocks).items = cache.entries.items := by
    apply sublist.eq_of_length_le
    change cache.size ≤ (cache.remaining clocks).size
    rw [full]
    exact fits
  rw [Recency.keys, whole] at swept
  exact swept held

/-- A write under a capacity takes away what the sweep, if it is due, finds expired. It takes one key
more exactly if, of what remains, the table is full and does not hold the written key: the one whose last
use came before the last uses of all others. All other entries stay as they are, in their order, behind
the written one. A key that is there before its write never takes another one away. -/
theorem set_displaces_oldest {config : Config} {capacity : UInt64}
    (bounded : config.maxSize = some capacity) (positive : 0 < capacity) {interval : Duration}
    {mono : Instant} {events : List Event} {cache : LocalCache}
    (ran : backend.run (fresh config interval mono) events = cache) (clocks : Clocks) (key : String)
    (response : Response) (model : String) (tokens : UInt64) :
    ∃ displaced : Option String,
      (∀ other entry, other ≠ key → cache.entries.find? other = some entry →
        ((cache.set clocks key response model tokens).entries.find? other = none ↔
          (cache.sweepDue clocks = true ∧ entry.isExpiredAt clocks.wall = true) ∨
            displaced = some other)) ∧
      (displaced.isSome = true ↔ (cache.remaining clocks).find? key = none ∧
        (cache.remaining clocks).size = capacity.toNat) ∧
      (∀ victim, displaced = some victim →
        victim ≠ key ∧ ((cache.remaining clocks).find? victim).isSome = true ∧
        ∀ other, ((cache.remaining clocks).find? other).isSome = true → other ≠ victim →
          LastUsedBefore ((fresh config interval mono).uses events) victim other) ∧
      (∃ survivors : List (String × Entry), survivors.Sublist cache.entries.items ∧
        (cache.set clocks key response model tokens).entries.items =
          (key, Entry.create clocks.wall key response model tokens config.ttlDuration) ::
            survivors) ∧
      ((cache.entries.find? key).isSome = true → displaced = none) := by
  have kept : cache.WellKept := ran ▸ wellKept_run config interval mono events
  have settings : cache.config = config := ran ▸ config_run _ events
  have order : cache.entries.keys.Sublist (latestFirst ((fresh config interval mono).uses events)) :=
    ran ▸ keys_run_sublist config interval mono events
  have room : cache.config.capacity? = some capacity.toNat := by
    rw [settings, Config.capacity?, bounded]
    rfl
  have place : 0 < capacity.toNat := UInt64.lt_iff_toNat_lt.1 positive
  have fits : cache.size ≤ capacity.toNat := by
    have most := kept.bounded _ room
    omega
  refine ⟨(cache.remaining clocks).leaving? capacity.toNat key, ?_, ?_, ?_, ?_, ?_⟩
  · intro other entry differs found
    rw [Recency.find?_eq_none_iff, keys_set kept.nodup room fits, List.mem_cons, List.mem_filter,
      List.mem_filter, mem_keys_remaining_iff kept.nodup clocks found]
    simp only [differs, bne_iff_ne, decide_eq_true_eq]
    tauto
  · rw [Recency.leaving?_isSome_iff place, Recency.find?_eq_none_iff]
  · intro victim displaced
    obtain ⟨absent, full, last⟩ := Recency.leaving?_eq_some displaced
    have there := List.mem_of_getLast? last
    refine ⟨?_, (Recency.find?_isSome_iff _ _).2 there, ?_⟩
    · rintro rfl
      exact absent there
    · intro other resident differs
      refine LastUsedBefore.of_getLast? ?_ last ((Recency.find?_isSome_iff _ _).1 resident) differs
      exact (Recency.keys_retain_sublist _ _).trans order
  · obtain ⟨survivors, sublist, items⟩ := items_set cache clocks key response model tokens
    rw [settings] at items
    exact ⟨survivors, sublist, items⟩
  · intro held
    exact leaving?_remaining_of_mem fits ((Recency.find?_isSome_iff _ _).1 held) clocks

/-- Of two entries the one that was not looked up is taken away, though it expires later. -/
theorem set_displaces_later_expiry :
    pairConfig.maxSize = some 2 ∧ (0 : UInt64) < 2 ∧
    ∃ cache first second, backend.run (fresh pairConfig 60 0) (refreshed.take 3) = cache ∧
      cache.entries.find? "a" = some first ∧ cache.entries.find? "b" = some second ∧
      first.expiresAt < second.expiresAt ∧
      LastUsedBefore ((fresh pairConfig 60 0).uses (refreshed.take 3)) "b" "a" ∧
      (cache.set ⟨3, 3⟩ "c" (.ofText "third") "m" 5).entries.find? "b" = none ∧
      (cache.set ⟨3, 3⟩ "c" (.ofText "third") "m" 5).entries.keys = ["c", "a"] := by
  have ran : backend.run (fresh pairConfig 60 0) (refreshed.take 3) = _ := rfl
  have bounded : pairConfig.maxSize = some 2 := rfl
  obtain ⟨displaced, gone, -, oldest, -, -⟩ :=
    set_displaces_oldest bounded (by decide) ran ⟨3, 3⟩ "c" (.ofText "third") "m" 5
  have victim : displaced = some "b" := by
    have lost := (gone "b" _ (by decide) rfl).1 rfl
    exact lost.resolve_left fun swept => absurd swept.1 (by decide)
  obtain ⟨-, -, before⟩ := oldest "b" victim
  exact ⟨bounded, by decide, _, _, _, ran, rfl, rfl, by decide, before "a" rfl (by decide), rfl, rfl⟩

end CompletionCache.LocalCache
