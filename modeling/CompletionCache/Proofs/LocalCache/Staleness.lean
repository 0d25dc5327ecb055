import CompletionCache.Proofs.LocalCache.LastWrite
import CompletionCache.Proofs.LocalCache.WellKept

/-!
# How long expired entries stay

When one clock drives a run, every entry of the table expires behind the last sweep (`Unswept.step`,
`unswept_run`), and a lookup or a write leaves the last sweep no longer ago than the cleanup interval
(`mono_le_lastSweep_step`). So behind either of them nothing is left whose expiry lies as far back as the
interval (`expired_for_less_than_interval`). A sweep takes away what has expired and nothing else, and
there is more than the interval between any two of them (`pairwise_sweepTimes`).
-/

set_option autoImplicit false

namespace CompletionCache

/-- Whether an operation sweeps when a sweep is due. -/
def Operation.tends : Operation → Bool
  | get _ => true
  | set _ _ _ _ => true
  | delete _ => false
  | clear => false
  | stats => false
  | health => false

/-- One clock that never goes back drives a run from its start on: the wall clock is always as far from
the monotonic one. -/
structure OneClock (offset : Int) (start : Instant) (events : List Event) : Prop where
  inStep : ∀ event ∈ events, event.clocks.wall = event.clocks.mono + offset
  inOrder : (start :: events.map fun event => event.clocks.mono).Pairwise (· ≤ ·)

instance (offset : Int) (start : Instant) (events : List Event) :
    Decidable (OneClock offset start events) :=
  decidable_of_iff (_ ∧ _) ⟨fun both => ⟨both.1, both.2⟩, fun clock => ⟨clock.inStep, clock.inOrder⟩⟩

section OneClock

variable {offset : Int} {start : Instant} {events : List Event} {event : Event}

theorem OneClock.of_append_singleton (clock : OneClock offset start (events ++ [event])) :
    OneClock offset start events ∧ event.clocks.wall = event.clocks.mono + offset ∧
      ∀ earlier ∈ start :: events.map fun event => event.clocks.mono, earlier ≤ event.clocks.mono := by
  have inOrder := clock.inOrder
  rw [List.map_append, ← List.cons_append] at inOrder
  obtain ⟨before, -, across⟩ := List.pairwise_append.1 inOrder
  exact ⟨⟨fun earlier mem => clock.inStep earlier (by simp [mem]), before⟩, clock.inStep event (by simp),
    fun earlier mem => across earlier mem event.clocks.mono (by simp)⟩

end OneClock

/-- An entry with a lifetime expires behind the instant it was made. -/
theorem Entry.lt_expiresAt_create {now : Instant} {ttl : Duration} (lasting : 0 < ttl)
    (fits : now + ttl < Instant.clockEnd) (key : String) (response : Response) (model : String)
    (tokens : UInt64) : now < (Entry.create now key response model tokens ttl).expiresAt := by
  rw [Entry.create_eq_entry fits, Write.entry]
  exact Int.lt_add_of_pos_right _ (Int.natCast_pos.2 lasting)

namespace LocalCache

/-! ## When sweeps happen -/

/-- When an event sweeps, if it does. -/
def sweptAt? (cache : LocalCache) (event : Event) : Option Instant :=
  if event.operation.tends && cache.sweepDue event.clocks then some event.clocks.mono else none

/-- The instants at which a run sweeps, one after another. -/
def sweepTimes (cache : LocalCache) : List Event → List Instant
  | [] => []
  | event :: rest => (cache.sweptAt? event).toList ++ sweepTimes (backend.step cache event) rest

@[simp]
theorem sweepTimes_append_singleton (cache : LocalCache) (events : List Event) (event : Event) :
    cache.sweepTimes (events ++ [event]) =
      cache.sweepTimes events ++ ((backend.run cache events).sweptAt? event).toList := by
  induction events generalizing cache with
  | nil => simp [sweepTimes]
  | cons head rest ih => simp [sweepTimes, ih, Backend.run]

/-- A sweep is due when the last one is longer ago than the interval. -/
theorem sweepDue_eq_true_iff (cache : LocalCache) (clocks : Clocks) :
    cache.sweepDue clocks = true ↔ cache.lastSweep + cache.cleanupInterval < clocks.mono := by
  rw [sweepDue, decide_eq_true_eq, Int.lt_toNat]
  exact ⟨Int.add_lt_of_lt_sub_left, Int.lt_sub_left_of_add_lt⟩

theorem lastSweep_sweep (cache : LocalCache) (clocks : Clocks) :
    (cache.sweep clocks).lastSweep =
      if cache.sweepDue clocks then clocks.mono else cache.lastSweep := by
  unfold sweep
  split <;> rfl

@[simp]
theorem cleanupInterval_sweep (cache : LocalCache) (clocks : Clocks) :
    (cache.sweep clocks).cleanupInterval = cache.cleanupInterval := by
  unfold sweep
  split <;> rfl

/-- Behind its sweep a lookup leaves the pace of the sweeps alone. -/
theorem pace_get (cache : LocalCache) (clocks : Clocks) (key : String) :
    (cache.get clocks key).2.lastSweep = (cache.sweep clocks).lastSweep ∧
      (cache.get clocks key).2.cleanupInterval = cache.cleanupInterval := by
  rw [← cleanupInterval_sweep cache clocks]
  rcases cache.get_cases clocks key with
    ⟨-, result⟩ | ⟨entry, -, -, result⟩ | ⟨entry, -, -, result⟩ <;>
  · rw [result]
    exact ⟨rfl, rfl⟩

@[simp]
theorem cleanupInterval_step (cache : LocalCache) (event : Event) :
    (backend.step cache event).cleanupInterval = cache.cleanupInterval := by
  obtain ⟨clocks, operation⟩ := event
  cases operation with
  | get key => exact (pace_get cache clocks key).2
  | set key response model tokens => exact cleanupInterval_sweep cache clocks
  | delete key => rfl
  | clear => rfl
  | stats => rfl
  | health => rfl

@[simp]
theorem cleanupInterval_run (cache : LocalCache) (events : List Event) :
    (backend.run cache events).cleanupInterval = cache.cleanupInterval := by
  induction events using List.reverseRecOn with
  | nil => rfl
  | append_singleton events event ih => rw [Backend.run_append_singleton, cleanupInterval_step, ih]

/-- The last sweep is that of the event, or else the one before it. -/
theorem lastSweep_step (cache : LocalCache) (event : Event) :
    (backend.step cache event).lastSweep = (cache.sweptAt? event).getD cache.lastSweep := by
  obtain ⟨clocks, operation⟩ := event
  have swept : ((if cache.sweepDue clocks then some clocks.mono else none).getD cache.lastSweep) =
      (cache.sweep clocks).lastSweep := by
    rw [lastSweep_sweep]
    split <;> rfl
  cases operation with
  | get key => exact (pace_get cache clocks key).1.trans swept.symm
  | set key response model tokens => exact swept.symm
  | delete key => rfl
  | clear => rfl
  | stats => rfl
  | health => rfl

/-- Behind an operation that tends the table the last sweep is no longer ago than the interval. -/
theorem mono_le_lastSweep_step {cache : LocalCache} {event : Event}
    (tends : event.operation.tends = true) :
    event.clocks.mono ≤ (backend.step cache event).lastSweep + cache.cleanupInterval := by
  rw [lastSweep_step, sweptAt?, tends, Bool.true_and]
  split
  · exact Int.le_add_of_nonneg_right (Int.natCast_nonneg _)
  · next notDue =>
    rw [sweepDue_eq_true_iff, Int.not_lt] at notDue
    exact notDue

section Runs

variable {config : Config} {interval : Duration} {offset : Int} {start : Instant}
  {events : List Event}

/-- Every sweep of a run, and its start, lies at the last sweep or before it, and the last sweep lies
within the run. -/
theorem lastSweep_run (clock : OneClock offset start events) :
    (backend.run (fresh config interval start) events).lastSweep ∈
        start :: events.map (fun event => event.clocks.mono) ∧
      ∀ time ∈ start :: (fresh config interval start).sweepTimes events,
        time ≤ (backend.run (fresh config interval start) events).lastSweep := by
  induction events using List.reverseRecOn with
  | nil => simp [fresh, create, withCleanupInterval, sweepTimes]
  | append_singleton events event ih =>
    obtain ⟨before, -, past⟩ := clock.of_append_singleton
    obtain ⟨within, latest⟩ := ih before
    rw [Backend.run_append_singleton, lastSweep_step, sweepTimes_append_singleton]
    cases swept : (backend.run (fresh config interval start) events).sweptAt? event with
    | none =>
      rw [Option.getD_none, Option.toList_none, List.append_nil]
      refine ⟨?_, latest⟩
      rw [List.map_append, ← List.cons_append]
      exact List.mem_append_left _ within
    | some time =>
      -- The event sweeps at its own instant, which no sweep before it comes behind.
      obtain rfl : event.clocks.mono = time := by
        rw [sweptAt?] at swept
        split at swept
        · exact Option.some.inj swept
        · cases swept
      refine ⟨by simp, ?_⟩
      intro earlier mem
      rw [Option.toList_some, ← List.cons_append, List.mem_append, List.mem_singleton] at mem
      rcases mem with mem | rfl
      · exact Int.le_trans (latest earlier mem) (past _ within)
      · exact Int.le_refl _

/-- Between the start of a run, its first sweep, and each sweep and the next there is more than the
interval. -/
theorem pairwise_sweepTimes (clock : OneClock offset start events) :
    (start :: (fresh config interval start).sweepTimes events).Pairwise
      fun earlier later : Instant => earlier + interval < later := by
  induction events using List.reverseRecOn with
  | nil => exact List.pairwise_singleton _ _
  | append_singleton events event ih =>
    obtain ⟨before, -, -⟩ := clock.of_append_singleton
    rw [sweepTimes_append_singleton, ← List.cons_append, List.pairwise_append]
    refine ⟨ih before, ?_, ?_⟩
    · cases (backend.run (fresh config interval start) events).sweptAt? event <;> simp
    · intro earlier mem later swept
      rw [Option.mem_toList, sweptAt?] at swept
      split at swept
      · next due =>
        rw [Bool.and_eq_true, sweepDue_eq_true_iff, cleanupInterval_run] at due
        cases swept
        exact Int.lt_of_le_of_lt (Int.add_le_add_right ((lastSweep_run before).2 earlier mem) _) due.2
      · cases swept

end Runs

/-! ## What sweeps leave -/

/-- Every entry of the table expires behind the last sweep, as the wall clock shows it. -/
def Unswept (offset : Int) (cache : LocalCache) : Prop :=
  ∀ item ∈ cache.entries.items, cache.lastSweep + offset < item.2.expiresAt

/-- A sweep takes away what has expired and leaves everything else, where it is. -/
theorem mem_items_sweep_iff {cache : LocalCache} {clocks : Clocks} (due : cache.sweepDue clocks = true)
    (item : String × Entry) :
    item ∈ (cache.sweep clocks).entries.items ↔
      item ∈ cache.entries.items ∧ clocks.wall < item.2.expiresAt := by
  rw [sweep, if_pos due, Recency.retain, List.mem_filter, Bool.not_eq_true', Entry.isExpiredAt,
    decide_eq_false_iff_not, Int.not_le]

section Steps

variable {offset : Int} {cache : LocalCache}

theorem Unswept.sweep (unswept : cache.Unswept offset) {clocks : Clocks}
    (inStep : clocks.wall = clocks.mono + offset) : (cache.sweep clocks).Unswept offset := by
  intro item mem
  rw [lastSweep_sweep]
  split
  · next due =>
    rw [← inStep]
    exact ((mem_items_sweep_iff due item).1 mem).2
  · exact unswept item ((items_sweep_sublist cache clocks).subset mem)

/-- Whatever an operation does, what it leaves in the table expires behind the last sweep. -/
theorem Unswept.step (unswept : cache.Unswept offset) (lasting : 0 < cache.config.ttlDuration)
    {event : Event} (inStep : event.clocks.wall = event.clocks.mono + offset)
    (past : cache.lastSweep ≤ event.clocks.mono)
    (fits : event.clocks.wall + cache.config.ttlDuration < Instant.clockEnd) :
    (backend.step cache event).Unswept offset := by
  obtain ⟨clocks, operation⟩ := event
  have swept := unswept.sweep inStep
  cases operation with
  | get key =>
    intro item mem
    rw [step_get, (pace_get cache clocks key).1]
    exact swept item (items_get_subset_sweep cache clocks key mem)
  | set key response model tokens =>
    obtain ⟨others, sublist, items⟩ := items_set_sweep cache clocks key response model tokens
    intro item mem
    rw [step_set, items] at mem
    rcases List.mem_cons.1 mem with rfl | mem
    · -- The last sweep may be the one of this write, but it is not later than the write.
      have notLater : (cache.sweep clocks).lastSweep + offset ≤ clocks.wall := by
        rw [inStep, lastSweep_sweep]
        apply Int.add_le_add_right
        split
        · exact Int.le_refl _
        · exact past
      exact Int.lt_of_le_of_lt notLater (Entry.lt_expiresAt_create lasting fits _ _ _ _)
    · exact swept item (sublist.subset mem)
  | delete key => exact fun item mem => unswept item ((Recency.items_erase_sublist _ key).subset mem)
  | clear => exact fun item mem => absurd mem List.not_mem_nil
  | stats => exact unswept
  | health => exact unswept

/-- Along a run everything in the table expires behind the last sweep. -/
theorem unswept_run {config : Config} (lasting : 0 < config.ttlDuration) (interval : Duration)
    {start : Instant} {events : List Event} (clock : OneClock offset start events)
    (fits : HoldsLifetimes config events) :
    (backend.run (fresh config interval start) events).Unswept offset := by
  induction events using List.reverseRecOn with
  | nil => exact fun item mem => absurd mem List.not_mem_nil
  | append_singleton events event ih =>
    obtain ⟨before, inStep, past⟩ := clock.of_append_singleton
    rw [Backend.run_append_singleton]
    have settings : (backend.run (fresh config interval start) events).config = config :=
      config_run _ events
    exact (ih before fun earlier mem => fits earlier (by simp [mem])).step (settings.symm ▸ lasting)
      inStep (past _ (lastSweep_run before).1) (settings.symm ▸ fits event (by simp))

end Steps

/-- Behind a lookup and behind a write no entry is left whose expiry lies as far back as the interval. A
sweep that is due takes away what has expired and leaves everything else in its order, and there is more
than the interval between the start and the first sweep and between any two sweeps. -/
theorem expired_for_less_than_interval {config : Config} (lasting : 0 < config.ttl)
    {interval : Duration} {offset : Int} {start : Instant} {events : List Event} {event : Event}
    (tends : event.operation.tends = true) (clock : OneClock offset start (events ++ [event]))
    (fits : HoldsLifetimes config (events ++ [event])) {cache : LocalCache}
    (ran : backend.run (fresh config interval start) events = cache) :
    (∀ item ∈ (backend.step cache event).entries.items,
      event.clocks.wall < item.2.expiresAt + interval) ∧
    (cache.sweepDue event.clocks = true →
      (cache.sweep event.clocks).entries.items.Sublist cache.entries.items ∧
      ∀ item, item ∈ (cache.sweep event.clocks).entries.items ↔
        item ∈ cache.entries.items ∧ event.clocks.wall < item.2.expiresAt) ∧
    (start :: (fresh config interval start).sweepTimes (events ++ [event])).Pairwise
      fun earlier later : Instant => earlier + interval < later := by
  subst ran
  refine ⟨?_, ?_, pairwise_sweepTimes clock⟩
  · intro item mem
    have lastingTime : 0 < config.ttlDuration :=
      Nat.mul_pos (UInt64.lt_iff_toNat_lt.1 lasting) (by decide)
    have unswept := unswept_run lastingTime interval clock fits
    rw [Backend.run_append_singleton] at unswept
    have recent : event.clocks.mono ≤
        (backend.step (backend.run (fresh config interval start) events) event).lastSweep +
          (backend.run (fresh config interval start) events).cleanupInterval :=
      mono_le_lastSweep_step tends
    rw [cleanupInterval_run] at recent
    calc event.clocks.wall
        = event.clocks.mono + offset := clock.of_append_singleton.2.1
      _ ≤ _ + interval + offset := Int.add_le_add_right recent offset
      _ = _ + offset + interval := Int.add_right_comm _ _ _
      _ < item.2.expiresAt + interval := Int.add_lt_add_right (unswept item mem) _
  · intro due
    exact ⟨items_sweep_sublist _ _, mem_items_sweep_iff due⟩

/-- A config whose entries live for a second. -/
def shortLived : Config := { Config.default with ttl := 1 }

/-- A write, and two lookups of another key, one nanosecond before the entry expires and three behind
it. -/
def outlasting : List Event :=
  [⟨⟨5, 0⟩, .set "a" (.ofText "first") "m" 3⟩, ⟨⟨1000000004, 999999999⟩, .get "b"⟩,
    ⟨⟨1000000008, 1000000003⟩, .get "b"⟩]

/-- One more lookup, when the entry has expired as long ago as the interval. -/
def outlasted : Event := ⟨⟨1000000009, 1000000004⟩, .get "b"⟩

/-- An expired entry is still held three nanoseconds later, and at the fourth it is swept away. -/
theorem expired_for_less_than_interval_outlasted :
    0 < shortLived.ttl ∧ outlasted.operation.tends = true ∧
    OneClock 5 0 (outlasting ++ [outlasted]) ∧
    HoldsLifetimes shortLived (outlasting ++ [outlasted]) ∧
    ∃ cache entry, backend.run (fresh shortLived 4 0) outlasting = cache ∧
      cache.entries.items = [("a", entry)] ∧ entry.isExpiredAt 1000000008 = true ∧
      ("a", entry) ∉ (backend.step cache outlasted).entries.items ∧
      (fresh shortLived 4 0).sweepTimes (outlasting ++ [outlasted]) = [999999999, 1000000004] ∧
      (0 :: (fresh shortLived 4 0).sweepTimes (outlasting ++ [outlasted])).Pairwise
        fun earlier later : Instant => earlier + 4 < later := by
  have ran : backend.run (fresh shortLived 4 0) outlasting = _ := rfl
  have lasting : 0 < shortLived.ttl := by decide
  have clock : OneClock 5 0 (outlasting ++ [outlasted]) := by decide
  have fits : HoldsLifetimes shortLived (outlasting ++ [outlasted]) := by decide
  have tends : outlasted.operation.tends = true := rfl
  obtain ⟨young, -, apart⟩ := expired_for_less_than_interval lasting tends clock fits ran
  refine ⟨lasting, tends, clock, fits, _, _, ran, rfl, by decide, ?_, by decide, apart⟩
  intro held
  exact absurd (young _ held) (by decide)

end LocalCache

end CompletionCache
