import CompletionCache.Proofs.Entry.Lifetime
import CompletionCache.Proofs.LocalCache.View
import CompletionCache.Proofs.Recency.Eviction

/-!
# What the table of the cache in process is like

Whatever config a cache has, valid or not, and whatever its clocks show: keys stand once in its table,
every entry stands under its own key and does not expire before it was made, and there are no more
entries than the capacity, or than one (`LocalCache.WellKept`). Every operation keeps that, so it holds
along every run. To make room for a write takes finitely many rounds even without any capacity, and the
written key then stands in front (`run_wellKept`).
-/

set_option autoImplicit false

namespace CompletionCache

namespace LocalCache

/-- The table of a cache is as it should be. -/
structure WellKept (cache : LocalCache) : Prop where
  /-- No key stands twice. -/
  nodup : cache.entries.keys.Nodup
  /-- Every entry stands under its own key. -/
  named : ∀ item ∈ cache.entries.items, item.2.key = item.1
  /-- No entry expires before it was made. -/
  lasting : ∀ item ∈ cache.entries.items, item.2.createdAt ≤ item.2.expiresAt
  /-- The capacity bounds the table, and a capacity of nothing counts as one. -/
  bounded : ∀ capacity, cache.config.capacity? = some capacity → cache.size ≤ max capacity 1

/-! ## What the table holds -/

theorem items_sweep_sublist (cache : LocalCache) (clocks : Clocks) :
    (cache.sweep clocks).entries.items.Sublist cache.entries.items := by
  unfold sweep
  split
  · exact Recency.items_retain_sublist _ _
  · exact List.Sublist.refl _

theorem size_sweep_le (cache : LocalCache) (clocks : Clocks) :
    (cache.sweep clocks).size ≤ cache.size :=
  (items_sweep_sublist cache clocks).length_le

/-- Behind its sweep a lookup adds nothing to the table. -/
theorem items_get_subset_sweep (cache : LocalCache) (clocks : Clocks) (key : String) :
    (cache.get clocks key).2.entries.items ⊆ (cache.sweep clocks).entries.items := by
  rcases cache.get_cases clocks key with
    ⟨-, result⟩ | ⟨entry, -, -, result⟩ | ⟨entry, -, -, result⟩
  · rw [result]
    exact List.Subset.refl _
  · rw [result]
    exact (Recency.items_erase_sublist _ key).subset
  · rw [result]
    exact Recency.items_touch_subset _ key

theorem items_get_subset (cache : LocalCache) (clocks : Clocks) (key : String) :
    (cache.get clocks key).2.entries.items ⊆ cache.entries.items :=
  List.Subset.trans (items_get_subset_sweep cache clocks key) (items_sweep_sublist cache clocks).subset

theorem items_makeRoom_sublist (capacity : Option Nat) (entries : Recency Entry) :
    (makeRoom capacity entries).items.Sublist entries.items := by
  cases capacity with
  | none => exact List.Sublist.refl _
  | some capacity => exact Recency.items_keepLatest_sublist _ _

/-- Behind a write the table holds the new entry in front of what is left of the others behind the
sweep. -/
theorem items_set_sweep (cache : LocalCache) (clocks : Clocks) (key : String) (response : Response)
    (model : String) (tokens : UInt64) :
    ∃ others : List (String × Entry), others.Sublist (cache.sweep clocks).entries.items ∧
      (cache.set clocks key response model tokens).entries.items =
        (key, Entry.create clocks.wall key response model tokens cache.config.ttlDuration) ::
          others := by
  refine ⟨_, ?_, by rw [← config_sweep cache clocks]; rfl⟩
  refine List.Sublist.trans (Recency.items_erase_sublist _ key) ?_
  exact (items_makeRoom_sublist _ _).trans (Recency.items_erase_sublist _ key)

/-- Behind a write the table holds the new entry in front of what is left of the others. -/
theorem items_set (cache : LocalCache) (clocks : Clocks) (key : String) (response : Response)
    (model : String) (tokens : UInt64) :
    ∃ others : List (String × Entry), others.Sublist cache.entries.items ∧
      (cache.set clocks key response model tokens).entries.items =
        (key, Entry.create clocks.wall key response model tokens cache.config.ttlDuration) ::
          others := by
  obtain ⟨others, sublist, items⟩ := items_set_sweep cache clocks key response model tokens
  exact ⟨others, sublist.trans (items_sweep_sublist cache clocks), items⟩

/-- What holds of all entries, and of the one that an event may write, holds of all entries behind the
event. -/
theorem forall_items_step {cache : LocalCache} {P : String × Entry → Prop} {event : Event}
    (written : ∀ key response model tokens, event.operation = .set key response model tokens →
      P (key, Entry.create event.clocks.wall key response model tokens cache.config.ttlDuration))
    (holds : ∀ item ∈ cache.entries.items, P item) :
    ∀ item ∈ (backend.step cache event).entries.items, P item := by
  obtain ⟨clocks, operation⟩ := event
  cases operation with
  | get key => exact fun item mem => holds item (items_get_subset cache clocks key mem)
  | set key response model tokens =>
    obtain ⟨others, sublist, items⟩ := items_set cache clocks key response model tokens
    rw [step_set, items]
    intro item mem
    rcases List.mem_cons.1 mem with rfl | mem
    · exact written _ _ _ _ rfl
    · exact holds item (sublist.subset mem)
  | delete key =>
    exact fun item mem => holds item ((Recency.items_erase_sublist _ key).subset mem)
  | clear => exact fun item mem => absurd mem List.not_mem_nil
  | stats => exact holds
  | health => exact holds

/-! ## How much it holds -/

theorem size_get_le (cache : LocalCache) (clocks : Clocks) (key : String) :
    (cache.get clocks key).2.size ≤ cache.size := by
  refine Nat.le_trans ?_ (size_sweep_le cache clocks)
  rcases cache.get_cases clocks key with
    ⟨-, result⟩ | ⟨entry, -, -, result⟩ | ⟨entry, -, -, result⟩
  · rw [result]
    exact Nat.le_refl _
  · rw [result]
    exact (Recency.items_erase_sublist _ key).length_le
  · rw [result]
    exact Recency.size_touch_le _ key

/-- Behind a write there are no more entries than the capacity, or than the one that was written. -/
theorem size_set_le (cache : LocalCache) {capacity : Nat}
    (bounded : cache.config.capacity? = some capacity) (clocks : Clocks) (key : String)
    (response : Response) (model : String) (tokens : UInt64) :
    (cache.set clocks key response model tokens).size ≤ max capacity 1 := by
  have others : ∀ table : Recency Entry,
      ((table.keepLatest (capacity - 1)).erase key).items.length ≤ capacity - 1 := by
    intro table
    refine Nat.le_trans (Recency.items_erase_sublist _ key).length_le ?_
    exact List.length_take_le _ _
  have room := others ((cache.sweep clocks).entries.erase key)
  rw [← config_sweep cache clocks] at bounded
  rw [size, set, Recency.size, Recency.push]
  dsimp only
  rw [List.length_cons, bounded, makeRoom]
  omega

theorem size_step_le {cache : LocalCache} {capacity : Nat}
    (bounded : cache.config.capacity? = some capacity) (fits : cache.size ≤ max capacity 1)
    (event : Event) : (backend.step cache event).size ≤ max capacity 1 := by
  -- Only a write adds an entry; all other operations leave the table as it is or make it smaller.
  obtain ⟨clocks, operation⟩ := event
  cases operation with
  | get key =>
    exact Nat.le_trans (size_get_le cache clocks key) fits
  | set key response model tokens => exact size_set_le cache bounded clocks key response model tokens
  | delete key =>
    exact Nat.le_trans (Recency.items_erase_sublist _ key).length_le fits
  | clear => exact Nat.zero_le _
  | stats => exact fits
  | health => exact fits

/-! ## Runs -/

/-- Every operation leaves the table as it should be. -/
theorem WellKept.step {cache : LocalCache} (kept : cache.WellKept) (event : Event) :
    (backend.step cache event).WellKept where
  nodup := nodup_keys_step kept.nodup event
  named := forall_items_step (fun _ _ _ _ _ => rfl) kept.named
  lasting := forall_items_step (fun _ _ _ _ _ => Entry.le_expiry _ _) kept.lasting
  bounded capacity given := by
    rw [config_step] at given
    exact size_step_le given (kept.bounded capacity given) event

theorem wellKept_fresh (config : Config) (interval : Duration) (mono : Instant) :
    (fresh config interval mono).WellKept where
  nodup := List.nodup_nil
  named := nofun
  lasting := nofun
  bounded _ _ := Nat.zero_le _

theorem wellKept_run (config : Config) (interval : Duration) (mono : Instant)
    (events : List Event) : (backend.run (fresh config interval mono) events).WellKept := by
  induction events using List.reverseRecOn with
  | nil => exact wellKept_fresh config interval mono
  | append_singleton events event ih =>
    rw [Backend.run_append_singleton]
    exact ih.step event

/-- The rounds of making room end, whatever the capacity. -/
theorem makesRoom_makeRoom (capacity : Option Nat) (entries : Recency Entry) :
    Recency.MakesRoom capacity entries (makeRoom capacity entries) := by
  cases capacity with
  | none => exact .done rfl
  | some capacity => exact Recency.makesRoom_keepLatest capacity entries

/-- Along every run the table is as it should be. To make room for a write always comes to an end, and
the written key then stands in front with its new entry. -/
theorem run_wellKept (config : Config) (interval : Duration) (mono : Instant)
    (events : List Event) :
    (backend.run (fresh config interval mono) events).WellKept ∧
    ∀ (clocks : Clocks) (key : String) (response : Response) (model : String) (tokens : UInt64),
      (∃ room, Recency.MakesRoom config.capacity?
          (((backend.run (fresh config interval mono) events).sweep clocks).entries.erase key) room ∧
        ((backend.run (fresh config interval mono) events).set clocks key response model
            tokens).entries =
          room.push key (Entry.create clocks.wall key response model tokens config.ttlDuration)) ∧
      ((backend.run (fresh config interval mono) events).set clocks key response model
          tokens).entries.find? key =
        some (Entry.create clocks.wall key response model tokens config.ttlDuration) ∧
      ((backend.run (fresh config interval mono) events).set clocks key response model
          tokens).entries.keys.head? = some key := by
  refine ⟨wellKept_run config interval mono events, ?_⟩
  intro clocks key response model tokens
  have settings : ((backend.run (fresh config interval mono) events).sweep clocks).config = config :=
    (config_sweep _ clocks).trans (config_run _ events)
  refine ⟨⟨_, makesRoom_makeRoom _ _, ?_⟩, ?_, ?_⟩
  · rw [set, settings]
  · rw [find?_set_self, config_run]
    rfl
  · rw [set, Recency.keys_push]
    rfl

/-- A config that is not valid: it has no room for anything, and its lifetime runs past the end of the
clock. -/
def roomlessConfig : Config := { Config.default with ttl := 0xFFFFFFFFFFFFFFFF, maxSize := some 0 }

/-- Two writes and a lookup, while the clocks go back. -/
def turnedBack : List Event :=
  [⟨⟨7, 9⟩, .set "a" (.ofText "first") "m" 3⟩, ⟨⟨-2, 4⟩, .set "b" (.ofText "second") "m" 4⟩,
    ⟨⟨-5, 1⟩, .get "a"⟩]

/-- Without room for anything, a table holds the entry that was written last. -/
theorem run_wellKept_turnedBack :
    roomlessConfig.fault?.isSome = true ∧
    (backend.run (fresh roomlessConfig 4 0) turnedBack).WellKept ∧
    (backend.run (fresh roomlessConfig 4 0) turnedBack).entries.keys = ["b"] ∧
    ((backend.run (fresh roomlessConfig 4 0) turnedBack).set ⟨-9, 0⟩ "c" (.ofText "third") "m"
      5).entries.keys.head? = some "c" := by
  obtain ⟨kept, written⟩ := run_wellKept roomlessConfig 4 0 turnedBack
  exact ⟨rfl, kept, rfl, (written ⟨-9, 0⟩ "c" (.ofText "third") "m" 5).2.2⟩

end LocalCache

end CompletionCache
