import CompletionCache.Proofs.LocalCache.LastWrite
import CompletionCache.Proofs.Recency.Order

/-!
# What a capacity retains

A use of a key is a write of it or a lookup that finds it. Along a run the keys of the table keep the
order of their last uses (`keys_run_sublist`). A write under a capacity therefore pushes out only
keys behind whose last use as many other keys were used (`view_set_of_few`), and an entry stays while
fewer other keys than the capacity were used since (`get_eq_standing_write_of_few_uses`).
-/

set_option autoImplicit false

namespace CompletionCache.LocalCache

open Recency (latestFirst usedSince)

/-- The key that an event uses: a write uses its key, and so does a lookup that finds an entry. -/
def used? (cache : LocalCache) (event : Event) : Option String :=
  match event.operation with
  | .set key _ _ _ => some key
  | .get key => if (cache.get event.clocks key).1.isSome then some key else none
  | .delete _ => none
  | .clear => none
  | .stats => none
  | .health => none

theorem used?_get (cache : LocalCache) (clocks : Clocks) (key : String) :
    cache.used? ⟨clocks, .get key⟩ =
      if (cache.get clocks key).1.isSome then some key else none := rfl

/-- The keys that a run uses, one after another. -/
def uses (cache : LocalCache) : List Event → List String
  | [] => []
  | event :: rest => (cache.used? event).toList ++ uses (backend.step cache event) rest

@[simp]
theorem uses_append_singleton (cache : LocalCache) (events : List Event) (event : Event) :
    cache.uses (events ++ [event]) =
      cache.uses events ++ ((backend.run cache events).used? event).toList := by
  induction events generalizing cache with
  | nil => simp [uses]
  | cons head rest ih => simp [uses, ih, Backend.run]

/-! ## The order of the table -/

theorem keys_sweep_sublist (cache : LocalCache) (clocks : Clocks) :
    (cache.sweep clocks).entries.keys.Sublist cache.entries.keys := by
  unfold sweep
  split
  · exact Recency.keys_retain_sublist _ _
  · exact List.Sublist.refl _

theorem keys_makeRoom_sublist (capacity : Option Nat) (entries : Recency Entry) :
    (makeRoom capacity entries).keys.Sublist entries.keys := by
  cases capacity with
  | none => exact List.Sublist.refl _
  | some capacity =>
    rw [makeRoom, Recency.keys_keepLatest]
    exact List.take_sublist _ _

/-- A key that moves to the front of the table moves to the front of the order as well. -/
theorem sublist_latestFirst_of_front {keys uses : List String}
    (sublist : keys.Sublist (latestFirst uses)) (key : String) :
    (key :: keys.filter (· != key)).Sublist (latestFirst (uses ++ [key])) := by
  rw [Recency.latestFirst_append_singleton]
  exact (sublist.filter _).cons_cons key

theorem keys_get_sublist {cache : LocalCache} {uses : List String}
    (sublist : cache.entries.keys.Sublist (latestFirst uses)) (clocks : Clocks) (key : String) :
    (cache.get clocks key).2.entries.keys.Sublist
      (latestFirst (uses ++ (cache.used? ⟨clocks, .get key⟩).toList)) := by
  have swept := (keys_sweep_sublist cache clocks).trans sublist
  -- Only a lookup that finds its key is a use, and only then does the key move to the front.
  rw [used?_get]
  rcases cache.get_cases clocks key with
    ⟨-, result⟩ | ⟨entry, -, -, result⟩ | ⟨entry, found, -, result⟩
  · rw [result]
    simpa using swept
  · rw [result, Recency.keys_erase]
    simpa using List.filter_sublist.trans swept
  · have present : key ∈ (cache.sweep clocks).entries.keys := by
      rw [← Recency.find?_isSome_iff, found]
      rfl
    rw [result, Recency.keys_touch, if_pos present]
    exact sublist_latestFirst_of_front swept key

/-- The keys of the table keep the order of their last uses behind an event. -/
theorem keys_step_sublist {cache : LocalCache} {uses : List String}
    (sublist : cache.entries.keys.Sublist (latestFirst uses)) (event : Event) :
    (backend.step cache event).entries.keys.Sublist
      (latestFirst (uses ++ (cache.used? event).toList)) := by
  obtain ⟨clocks, operation⟩ := event
  cases operation with
  | get key => exact keys_get_sublist sublist clocks key
  | set key response model tokens =>
    rw [step_set, set, Recency.keys_push]
    have roomy := keys_makeRoom_sublist (cache.sweep clocks).config.capacity?
      ((cache.sweep clocks).entries.erase key)
    have erased : ((cache.sweep clocks).entries.erase key).keys.Sublist cache.entries.keys := by
      rw [Recency.keys_erase]
      exact List.filter_sublist.trans (keys_sweep_sublist cache clocks)
    exact sublist_latestFirst_of_front ((roomy.trans erased).trans sublist) key
  | delete key =>
    rw [step_delete, delete, Recency.keys_erase]
    simpa [used?] using List.filter_sublist.trans sublist
  | clear => exact List.nil_sublist _
  | stats => simpa [used?] using sublist
  | health => simpa [used?] using sublist

/-- Along a run the keys of the table keep the order of their last uses. -/
theorem keys_run_sublist (config : Config) (interval : Duration) (mono : Instant)
    (events : List Event) :
    (backend.run (fresh config interval mono) events).entries.keys.Sublist
      (latestFirst ((fresh config interval mono).uses events)) := by
  induction events using List.reverseRecOn with
  | nil => exact List.nil_sublist _
  | append_singleton events event ih =>
    rw [Backend.run_append_singleton, uses_append_singleton]
    exact keys_step_sublist ih event

/-! ## Who stays -/

/-- A write leaves every entry behind whose last use, the write counted in, fewer keys than the
capacity were used. -/
theorem view_set_of_few {cache : LocalCache} (nodup : cache.entries.keys.Nodup) {capacity : Nat}
    (bounded : cache.config.capacity? = some capacity) {uses : List String}
    (sublist : cache.entries.keys.Sublist (latestFirst uses)) {clocks : Clocks} {now : Instant}
    (order : clocks.wall ≤ now) {key other : String} (differs : other ≠ key) {entry : Entry}
    (seen : cache.view now other = some entry)
    (few : (usedSince other (uses ++ [key])).card < capacity) (response : Response)
    (model : String) (tokens : UInt64) :
    (cache.set clocks key response model tokens).view now other = some entry := by
  rw [← view_sweep nodup order, view_eq_some_iff] at seen
  obtain ⟨found, alive⟩ := seen
  have erased : ((cache.sweep clocks).entries.erase key).find? other = some entry := by
    rw [Recency.find?_erase, if_neg differs, found]
  have present : other ∈ ((cache.sweep clocks).entries.erase key).keys := by
    rw [← Recency.find?_isSome_iff, erased]
    rfl
  have ordered : (key :: ((cache.sweep clocks).entries.erase key).keys).Sublist
      (latestFirst (uses ++ [key])) := by
    rw [Recency.keys_erase]
    exact sublist_latestFirst_of_front ((keys_sweep_sublist cache clocks).trans sublist) key
  -- The new key takes one of the places, so the cut leaves one less to the keys behind it.
  have front := Recency.mem_take_of_sublist_latestFirst ordered
    (List.mem_cons_of_mem key present) few
  obtain ⟨room, rfl⟩ : ∃ room, capacity = room + 1 := ⟨capacity - 1, by omega⟩
  rw [List.take_succ_cons, List.mem_cons, or_iff_right differs] at front
  rw [view_eq_some_iff, set, Recency.find?_push, if_neg differs, config_sweep, bounded, makeRoom,
    Nat.add_sub_cancel, Recency.find?_keepLatest_of_mem front]
  exact ⟨erased, alive⟩

/-- An event that neither decides nor uses a key leaves its entry if fewer other keys than the
capacity were used since its last use. -/
theorem view_step_of_few {cache : LocalCache} (nodup : cache.entries.keys.Nodup) {capacity : Nat}
    (bounded : cache.config.capacity? = some capacity) {uses : List String}
    (sublist : cache.entries.keys.Sublist (latestFirst uses)) {event : Event} {now : Instant}
    (order : event.clocks.wall ≤ now) {key : String}
    (passive : event.operation.decides key = false) {entry : Entry}
    (seen : cache.view now key = some entry)
    (few : (usedSince key (uses ++ (cache.used? event).toList)).card < capacity) :
    (backend.step cache event).view now key = some entry := by
  obtain ⟨clocks, operation⟩ := event
  cases operation with
  | get other => rw [step_get, view_get nodup order, seen]
  | set other response model tokens =>
    have differs : other ≠ key := by simpa [Operation.decides] using passive
    exact view_set_of_few nodup bounded sublist order (Ne.symm differs) seen few _ _ _
  | delete other =>
    have differs : other ≠ key := by simpa [Operation.decides] using passive
    rw [step_delete, delete, view, Recency.find?_erase, if_neg (Ne.symm differs)]
    exact seen
  | clear => simp [Operation.decides] at passive
  | stats => exact seen
  | health => exact seen

/-- A key that an event uses is in the table behind it. -/
theorem mem_keys_step_of_used? {cache : LocalCache} {event : Event} {key : String}
    (used : cache.used? event = some key) : key ∈ (backend.step cache event).entries.keys := by
  obtain ⟨clocks, operation⟩ := event
  cases operation with
  | get other =>
    rw [used?_get] at used
    rcases cache.get_cases clocks other with
      ⟨-, result⟩ | ⟨entry, -, -, result⟩ | ⟨entry, found, -, result⟩
    · simp [result] at used
    · simp [result] at used
    · have same : other = key := by simpa [result] using used
      subst same
      rw [step_get, result, ← Recency.find?_isSome_iff, Recency.find?_touch, found]
      rfl
  | set other response model tokens =>
    have same : other = key := by simpa [used?] using used
    subst same
    rw [step_set, ← Recency.find?_isSome_iff, find?_set_self]
    rfl
  | delete other => simp [used?] at used
  | clear => simp [used?] at used
  | stats => simp [used?] at used
  | health => simp [used?] at used

/-- An event that decides a key without using it leaves no write standing under it. -/
theorem standingAfter_of_not_used {cache : LocalCache} {event : Event} {key : String}
    (decided : event.operation.decides key = true) (unused : cache.used? event ≠ some key)
    (before : Option Write) : standingAfter key before event = none := by
  obtain ⟨clocks, operation⟩ := event
  cases operation with
  | set other response model tokens =>
    have same : other = key := by simpa [Operation.decides] using decided
    subst same
    exact absurd rfl unused
  | delete other =>
    have same : other = key := by simpa [Operation.decides] using decided
    simp [standingAfter, same]
  | clear => rfl
  | get other => simp [Operation.decides] at decided
  | stats => simp [Operation.decides] at decided
  | health => simp [Operation.decides] at decided

/-- A key that is in the table behind a run has its standing write there. -/
theorem view_of_mem_keys_run {config : Config} (interval : Duration) (mono : Instant)
    {events : List Event} {key : String} {write : Write} (stands : standing? key events = some write)
    (fits : write.time + config.ttlDuration < Instant.clockEnd) {now : Instant}
    (alive : now < write.time + config.ttlDuration)
    (member : key ∈ (backend.run (fresh config interval mono) events).entries.keys) :
    (backend.run (fresh config interval mono) events).view now key =
      some (write.entry key config.ttlDuration) := by
  obtain ⟨entry, found⟩ := Option.isSome_iff_exists.1 ((Recency.find?_isSome_iff _ _).2 member)
  obtain ⟨other, stood, rfl⟩ := standing?_of_find?_run config interval mono events key found
  rw [stands, Option.some.injEq] at stood
  subst stood
  rw [Write.made_eq_entry fits] at found
  exact (view_eq_some_iff _ _ _ _).2 ⟨found, (write.entry_isExpiredAt_eq_false_iff _ _ _).2 alive⟩

/-- Along a run, the key of a write that stands and lives is in the table while fewer other keys than
the capacity were used since its last use. -/
theorem mem_keys_run_of_few {config : Config} {capacity : Nat}
    (bounded : config.capacity? = some capacity) (interval : Duration) (mono : Instant)
    {events : List Event} {now : Instant} (past : ∀ event ∈ events, event.clocks.wall ≤ now)
    {key : String} {write : Write} (stands : standing? key events = some write)
    (fits : write.time + config.ttlDuration < Instant.clockEnd)
    (alive : now < write.time + config.ttlDuration)
    (few : (usedSince key ((fresh config interval mono).uses events)).card < capacity) :
    key ∈ (backend.run (fresh config interval mono) events).entries.keys := by
  induction events using List.reverseRecOn with
  | nil => simp [standing?] at stands
  | append_singleton events event ih =>
    rw [Backend.run_append_singleton]
    rw [standing?_append_singleton] at stands
    rw [uses_append_singleton] at few
    by_cases used : (backend.run (fresh config interval mono) events).used? event = some key
    · exact mem_keys_step_of_used? used
    cases decided : event.operation.decides key with
    | true =>
      rw [standingAfter_of_not_used decided used] at stands
      cases stands
    | false =>
      -- The write stood before the event, so its key was in the table, and the event leaves it.
      rw [standingAfter_of_not_decides decided] at stands
      have member := ih (fun event member => past event (by simp [member])) stands
        (Nat.lt_of_le_of_lt (Recency.card_usedSince_le used _) few)
      have seen := view_of_mem_keys_run interval mono stands fits alive member
      have kept := view_step_of_few (nodup_keys_run config interval mono events)
        (by rw [config_run]; exact bounded) (keys_run_sublist config interval mono events)
        (past event (by simp)) decided seen few
      rw [← Recency.find?_isSome_iff, ((view_eq_some_iff _ _ _ _).1 kept).1]
      rfl

/-- Under a capacity a lookup returns the standing write of its key before its end if fewer other
keys than the capacity were used since the last use of the key. Only the end of this write has to be
an instant that the clock can hold. -/
theorem get_eq_standing_write_of_few_uses (config : Config) (capacity : UInt64)
    (bounded : config.maxSize = some capacity) (interval : Duration) (mono : Instant)
    (events : List Event) (clocks : Clocks) (key : String) (write : Write)
    (inOrder : InOrder (events ++ [⟨clocks, .get key⟩])) (stands : Stands events key write)
    (fits : write.time + config.ttlDuration < Instant.clockEnd)
    (alive : clocks.wall < write.time + config.ttlDuration)
    (few : (usedSince key ((fresh config interval mono).uses events)).card < capacity.toNat) :
    ((backend.run (fresh config interval mono) events).get clocks key).1 =
      some (write.entry key config.ttlDuration) := by
  obtain ⟨-, past⟩ := inOrder.of_append_singleton
  have room : config.capacity? = some capacity.toNat := by
    rw [Config.capacity?, bounded]
    rfl
  have standing := (standing?_eq_some_iff key events write).2 stands
  rw [get_fst (nodup_keys_run config interval mono events)]
  exact view_of_mem_keys_run interval mono standing fits alive
    (mem_keys_run_of_few room interval mono past standing fits alive few)

/-- A config that retains two entries. -/
def pairConfig : Config := { Config.default with maxSize := some 2 }

/-- Of two keys the one written first is looked up, and then a third key is written. -/
def refreshed : List Event :=
  [⟨⟨0, 0⟩, .set "a" (.ofText "first") "m" 3⟩, ⟨⟨1, 1⟩, .set "b" (.ofText "second") "m" 4⟩,
    ⟨⟨2, 2⟩, .get "a"⟩, ⟨⟨3, 3⟩, .set "c" (.ofText "third") "m" 5⟩, ⟨⟨4, 4⟩, .get "b"⟩]

/-- The key that was looked up is retained; behind the last use of the other one two keys were used,
and it is gone. -/
theorem get_after_refreshed :
    pairConfig.maxSize = some 2 ∧ InOrder (refreshed ++ [⟨⟨5, 5⟩, .get "a"⟩]) ∧
    Stands refreshed "a" ⟨0, .ofText "first", "m", 3⟩ ∧
    (0 : Instant) + pairConfig.ttlDuration < Instant.clockEnd ∧
    (usedSince "a" ((fresh pairConfig 60 0).uses refreshed)).card < 2 ∧
    ((backend.run (fresh pairConfig 60 0) refreshed).get ⟨5, 5⟩ "a").1 =
      some ⟨"a", .ofText "first", 0, 3600000000000, "m", 3⟩ ∧
    (usedSince "b" ((fresh pairConfig 60 0).uses refreshed)).card = 2 ∧
    ((backend.run (fresh pairConfig 60 0) refreshed).get ⟨5, 5⟩ "b").1 = none := by
  have stands : Stands refreshed "a" ⟨0, .ofText "first", "m", 3⟩ :=
    (standing?_eq_some_iff _ _ _).1 rfl
  refine ⟨rfl, by decide, stands, by decide, by decide, ?_, by decide, rfl⟩
  exact get_eq_standing_write_of_few_uses pairConfig 2 rfl 60 0 refreshed ⟨5, 5⟩ "a"
    ⟨0, .ofText "first", "m", 3⟩ (by decide) stands (by decide) (by decide) (by decide)

end CompletionCache.LocalCache
