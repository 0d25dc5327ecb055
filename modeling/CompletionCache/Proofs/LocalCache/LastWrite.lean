import CompletionCache.Proofs.Entry.Lifetime
import CompletionCache.Proofs.LocalCache.View

/-!
# Lookups return the last write

Along a run from a new cache, whatever the table holds under a key is the entry that was made of the
write that stands there (`standing?_of_find?_run`). Without a capacity, what a reader sees is that entry as
long as it lives (`view_run`). Hence `get_eq_some_only_standing_write`: a lookup returns nothing but
the standing write before its end, and without a capacity it always does, whatever happened to other
keys, however often the key was looked up, and whenever the cache was swept.
-/

set_option autoImplicit false

namespace CompletionCache

/-- Whether the wall clock holds the end of the lifetime of everything written along a run. -/
def HoldsLifetimes (config : Config) (events : List Event) : Prop :=
  ∀ event ∈ events, event.clocks.wall + config.ttlDuration < Instant.clockEnd

instance (config : Config) (events : List Event) : Decidable (HoldsLifetimes config events) :=
  inferInstanceAs (Decidable (∀ event ∈ events, _))

/-- The entry that a write makes, if the clock holds the end of its lifetime. -/
theorem Entry.create_eq_entry {now : Instant} {ttl : Duration}
    (fits : now + ttl < Instant.clockEnd) (key : String) (response : Response) (model : String)
    (tokens : UInt64) :
    Entry.create now key response model tokens ttl =
      Write.entry ⟨now, response, model, tokens⟩ key ttl := by
  rw [Entry.create, Entry.expiry_of_fits fits]
  rfl

/-- The entry that the cache makes of a write, whether the clock can hold its end or not. -/
def Write.made (write : Write) (key : String) (ttl : Duration) : Entry :=
  Entry.create write.time key write.response write.model write.tokens ttl

theorem Write.made_eq_entry {write : Write} {ttl : Duration}
    (fits : write.time + ttl < Instant.clockEnd) (key : String) :
    write.made key ttl = write.entry key ttl :=
  Entry.create_eq_entry fits key write.response write.model write.tokens

/-- What stands behind a run was written in it. -/
theorem HoldsLifetimes.of_stands {config : Config} {events : List Event}
    (fits : HoldsLifetimes config events) {key : String} {write : Write}
    (stands : Stands events key write) : write.time + config.ttlDuration < Instant.clockEnd := by
  obtain ⟨earlier, mono, later, rfl, -⟩ := stands
  exact fits ⟨⟨write.time, mono⟩, _⟩ (List.mem_append_right _ List.mem_cons_self)

theorem Write.entry_isExpiredAt_eq_false_iff (write : Write) (key : String) (ttl : Duration)
    (now : Instant) :
    (write.entry key ttl).isExpiredAt now = false ↔ now < write.time + ttl := by
  rw [Entry.isExpiredAt, decide_eq_false_iff_not, Int.not_le, Write.entry]

/-- The entry of a write before its end. -/
def Write.seen (write : Option Write) (key : String) (ttl : Duration) (now : Instant) :
    Option Entry :=
  (write.map fun write => write.entry key ttl).filter fun entry => !entry.isExpiredAt now

namespace LocalCache

/-! ## What the table holds -/

/-- What the table holds under a key behind an event was made of the standing write, if that was so
before the event. -/
theorem standingAfter_of_find?_step {cache : LocalCache} (nodup : cache.entries.keys.Nodup)
    {config : Config} (settings : cache.config = config) {event : Event} {key : String}
    {before : Option Write}
    (held : ∀ entry, cache.entries.find? key = some entry →
      ∃ write, before = some write ∧ entry = write.made key config.ttlDuration)
    {entry : Entry} (found : (backend.step cache event).entries.find? key = some entry) :
    ∃ write, standingAfter key before event = some write ∧
      entry = write.made key config.ttlDuration := by
  subst settings
  -- Only a write of the key puts an entry under it; every other operation can but take it away.
  obtain ⟨clocks, operation⟩ := event
  cases operation with
  | get other => exact held entry (find?_of_find?_get nodup found)
  | set other response model tokens =>
    rw [step_set] at found
    by_cases same : other = key
    · subst same
      rw [find?_set_self, Option.some.injEq] at found
      exact ⟨⟨clocks.wall, response, model, tokens⟩, by simp [standingAfter], found.symm⟩
    · obtain ⟨write, stood, shape⟩ := held entry (find?_of_find?_set nodup (Ne.symm same) found)
      exact ⟨write, by simp [standingAfter, same, stood], shape⟩
  | delete other =>
    rw [step_delete, delete, Recency.find?_erase] at found
    split at found
    · simp at found
    · next differs =>
      obtain ⟨write, stood, shape⟩ := held entry found
      exact ⟨write, by simp [standingAfter, Ne.symm differs, stood], shape⟩
  | clear => simp [clear] at found
  | stats => exact held entry found
  | health => exact held entry found

/-- Along a run, the table holds nothing under a key but what was made of the write that stands
there. -/
theorem standing?_of_find?_run (config : Config) (interval : Duration) (mono : Instant)
    (events : List Event) (key : String) {entry : Entry}
    (found : (backend.run (fresh config interval mono) events).entries.find? key = some entry) :
    ∃ write, standing? key events = some write ∧
      entry = write.made key config.ttlDuration := by
  induction events using List.reverseRecOn generalizing entry with
  | nil => simp [fresh, create, withCleanupInterval] at found
  | append_singleton events event ih =>
    rw [Backend.run_append_singleton] at found
    rw [standing?_append_singleton]
    exact standingAfter_of_find?_step (nodup_keys_run config interval mono events)
      (config_run _ events) (fun _ => ih) found

/-! ## What a reader sees -/

/-- Without a capacity, a reader sees the standing write before its end behind an event, if that was
so before the event. -/
theorem view_step {cache : LocalCache} (nodup : cache.entries.keys.Nodup) {config : Config}
    (settings : cache.config = config) (unbounded : config.maxSize = none) {event : Event}
    (fits : event.clocks.wall + config.ttlDuration < Instant.clockEnd) {now : Instant}
    (order : event.clocks.wall ≤ now) {key : String} {before : Option Write}
    (seen : cache.view now key = Write.seen before key config.ttlDuration now) :
    (backend.step cache event).view now key =
      Write.seen (standingAfter key before event) key config.ttlDuration now := by
  subst settings
  -- Sweeps and expired lookups take away only what no reader sees at `now` or later.
  obtain ⟨clocks, operation⟩ := event
  cases operation with
  | get other =>
    rw [step_get, view_get nodup order]
    exact seen
  | set other response model tokens =>
    rw [step_set, standingAfter]
    by_cases same : other = key
    · subst same
      rw [view, find?_set_self, Entry.create_eq_entry fits]
      simp [Write.seen]
    · rw [view_set nodup unbounded order _ _ _ (Ne.symm same), seen]
      simp [same]
  | delete other =>
    rw [step_delete, delete, view, Recency.find?_erase, standingAfter]
    by_cases same : other = key
    · simp [same, Write.seen]
    · dsimp only
      rw [if_neg (Ne.symm same), if_neg same]
      exact seen
  | clear => rfl
  | stats => exact seen
  | health => exact seen

/-- Without a capacity, a reader sees under every key the standing write before its end. -/
theorem view_run {config : Config} (unbounded : config.maxSize = none) (interval : Duration)
    (mono : Instant) {events : List Event} (fits : HoldsLifetimes config events) {now : Instant}
    (past : ∀ event ∈ events, event.clocks.wall ≤ now) (key : String) :
    (backend.run (fresh config interval mono) events).view now key =
      Write.seen (standing? key events) key config.ttlDuration now := by
  induction events using List.reverseRecOn with
  | nil => rfl
  | append_singleton events event ih =>
    rw [Backend.run_append_singleton, standing?_append_singleton]
    exact view_step (nodup_keys_run config interval mono events) (config_run _ events) unbounded
      (fits event (by simp)) (past event (by simp))
      (ih (fun event member => fits event (by simp [member]))
        fun event member => past event (by simp [member]))

/-! ## Lookups behind a run -/

/-- A lookup returns only the write that stands under its key, and only before its end. Without a
capacity it always returns it then, so operations that do not decide the key and the choice of the
cleanup interval change nothing. -/
theorem get_eq_some_only_standing_write (config : Config) (interval : Duration) (mono : Instant)
    (events : List Event) (clocks : Clocks) (key : String)
    (inOrder : InOrder (events ++ [⟨clocks, .get key⟩])) (fits : HoldsLifetimes config events) :
    (∀ entry, ((backend.run (fresh config interval mono) events).get clocks key).1 = some entry →
      ∃ write, Stands events key write ∧ entry = write.entry key config.ttlDuration ∧
        clocks.wall < write.time + config.ttlDuration) ∧
    (config.maxSize = none →
      (∀ write, Stands events key write → clocks.wall < write.time + config.ttlDuration →
        ((backend.run (fresh config interval mono) events).get clocks key).1 =
          some (write.entry key config.ttlDuration)) ∧
      ∀ otherInterval otherMono,
        ((backend.run (fresh config interval mono) events).get clocks key).1 =
          ((backend.run (fresh config otherInterval otherMono)
            (events.filter fun event => event.operation.decides key)).get clocks key).1) := by
  obtain ⟨-, past⟩ := inOrder.of_append_singleton
  have nodup := nodup_keys_run config interval mono events
  rw [get_fst nodup]
  refine ⟨?_, fun unbounded => ?_⟩
  · intro entry seen
    -- A capacity may have taken the entry away, but nothing else can have taken its place.
    obtain ⟨found, alive⟩ := (view_eq_some_iff _ _ _ _).1 seen
    obtain ⟨write, standing, rfl⟩ := standing?_of_find?_run config interval mono events key found
    have stands := (standing?_eq_some_iff key events write).1 standing
    rw [Write.made_eq_entry (fits.of_stands stands)] at alive ⊢
    exact ⟨write, stands, rfl, (write.entry_isExpiredAt_eq_false_iff key _ _).1 alive⟩
  · rw [view_run unbounded interval mono fits past key]
    refine ⟨?_, ?_⟩
    · intro write stands alive
      rw [(standing?_eq_some_iff key events write).2 stands]
      simp [Write.seen, Option.filter, (write.entry_isExpiredAt_eq_false_iff key _ _).2 alive]
    · intro otherInterval otherMono
      -- The operations that decide the key are a run of their own, and the same write stands.
      have fitsDeciding : HoldsLifetimes config
          (events.filter fun event => event.operation.decides key) :=
        fun event member => fits event (List.mem_of_mem_filter member)
      have pastDeciding : ∀ event ∈ events.filter fun event => event.operation.decides key,
          event.clocks.wall ≤ clocks.wall :=
        fun event member => past event (List.mem_of_mem_filter member)
      rw [get_fst (nodup_keys_run config otherInterval otherMono _),
        view_run unbounded otherInterval otherMono fitsDeciding pastDeciding key,
        standing?_filter]

/-- A key is written twice, with an operation on another key and a lookup in between. -/
def writtenTwice : List Event :=
  [⟨⟨0, 0⟩, .set "a" (.ofText "first") "m" 3⟩, ⟨⟨5, 5⟩, .get "a"⟩, ⟨⟨5, 6⟩, .delete "b"⟩,
    ⟨⟨7, 7⟩, .set "a" (.ofText "second") "m" 4⟩, ⟨⟨8, 9⟩, .get "b"⟩]

/-- One nanosecond before its end the second of two writes is found, and at its end it is not. -/
theorem get_after_writtenTwice :
    InOrder (writtenTwice ++ [⟨⟨3600000000006, 10⟩, .get "a"⟩]) ∧
    HoldsLifetimes .default writtenTwice ∧
    ((backend.run (fresh .default 4 0) writtenTwice).get ⟨3600000000006, 10⟩ "a").1 =
      some ⟨"a", .ofText "second", 7, 3600000000007, "m", 4⟩ ∧
    ((backend.run (fresh .default 4 0) writtenTwice).get ⟨3600000000007, 10⟩ "a").1 = none := by
  have fits : HoldsLifetimes .default writtenTwice := by decide
  have stands : Stands writtenTwice "a" ⟨7, .ofText "second", "m", 4⟩ :=
    (standing?_eq_some_iff _ _ _).1 rfl
  refine ⟨by decide, fits, ?_, ?_⟩
  · have found := (get_eq_some_only_standing_write .default 4 0 writtenTwice ⟨3600000000006, 10⟩
      "a" (by decide) fits).2 rfl
    exact found.1 _ stands (by decide)
  · have lost := (get_eq_some_only_standing_write .default 4 0 writtenTwice ⟨3600000000007, 10⟩
      "a" (by decide) fits).1
    rw [Option.eq_none_iff_forall_ne_some]
    intro entry found
    obtain ⟨write, stood, -, alive⟩ := lost entry found
    rw [← standing?_eq_some_iff] at stood stands
    rw [stands, Option.some.injEq] at stood
    subst stood
    exact absurd alive (by decide)

end LocalCache

end CompletionCache
