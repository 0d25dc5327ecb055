import CompletionCache.Proofs.SharedCache.InTime
import CompletionCache.Proofs.SharedCache.Tally

/-!
# One contract for both caches

The cache in process forgets lazily and keeps entries as they are; the cache over a store writes them
as documents that expire by themselves. Behind the same operations at whole seconds, every lookup
returns the same from both of them, and they count the same hits and misses (`caches_agree`): both
return the entry of the standing write as long as it lives (`Tracks.answer_get`), and lookups that are
answered alike are counted alike (`sameLookups_run`).
-/

set_option autoImplicit false

namespace CompletionCache

theorem LocalCache.answer_get (cache : LocalCache) (clocks : Clocks) (key : String) :
    backend.answer cache ⟨clocks, .get key⟩ = .ok (.found (cache.get clocks key).1) := rfl

namespace SharedCache

section Steps

variable {config : Config} {address : StoreConfig} {paging : Keyspace.Paging} {events : List Event}
  {cache : SharedCache} {space : Keyspace}

/-! ## Lookups -/

/-- An event at a whole second since the epoch. What it writes expires before `2 ^ 53` seconds, and its
document loses no number and can be read. -/
structure Exact (config : Config) (event : Event) : Prop where
  second : ∃ seconds : Nat, event.clocks.wall = (seconds * nanosPerSecond : Nat) ∧
    seconds + config.ttl.toNat < 2 ^ 53
  legible : ∀ key response model tokens, event.operation = .set key response model tokens →
    response.WellFormed ∧
    (Entry.create event.clocks.wall key response model tokens
      config.ttlDuration).toJson.Lossless Binary64.readScaled ∧
    (Entry.create event.clocks.wall key response model tokens
      config.ttlDuration).toJson.nesting ≤ Json.maxNesting

/-- What is written now expires at a whole second too. -/
theorem Exact.expiry {event : Event} (exact : Exact config event) :
    ∃ expires : Nat, event.clocks.wall + config.ttlDuration = (expires * nanosPerSecond : Nat) ∧
      expires < 2 ^ 53 := by
  obtain ⟨seconds, wall, small⟩ := exact.second
  refine ⟨seconds + config.ttl.toNat, ?_, small⟩
  rw [wall, Config.ttlDuration, Duration.ofSeconds, Nat.add_mul]
  rfl

theorem holdsLifetimes_of_exact (exact : ∀ event ∈ events, Exact config event) :
    HoldsLifetimes config events := by
  intro event mem
  obtain ⟨expires, expiry, small⟩ := (exact event mem).expiry
  rw [expiry, Instant.clockEnd]
  show ((expires * nanosPerSecond : Nat) : Int) < 0x8000000000000000 * (nanosPerSecond : Int)
  rw [nanosPerSecond]
  omega

/-- The text of the write that stands is read as its entry. -/
theorem read_of_stands (exact : ∀ event ∈ events, Exact config event) {key : String} {write : Write}
    (stands : Stands events key write) :
    Entry.ofText? (write.entry key config.ttlDuration).toJson.text =
      some (write.entry key config.ttlDuration) := by
  have fits := holdsLifetimes_of_exact exact
  -- The write that stands is one of the run, so its instants and its document are bounded.
  obtain ⟨earlier, mono, later, rfl, -⟩ := stands
  have here := exact ⟨⟨write.time, mono⟩, .set key write.response write.model write.tokens⟩ (by simp)
  obtain ⟨seconds, created, small⟩ := here.second
  obtain ⟨last, expires, below⟩ := here.expiry
  obtain ⟨wellFormed, lossless, shallow⟩ := here.legible _ _ _ _ rfl
  rw [Entry.create_eq_entry (fits _ (by simp))] at lossless shallow
  have before : ∀ {n : Nat} {instant : Instant}, instant = (n * nanosPerSecond : Nat) → n < 2 ^ 53 →
      instant < (2 ^ 53 * nanosPerSecond : Nat) := by
    rintro n instant rfl less
    exact Int.ofNat_lt.2 (Nat.mul_lt_mul_of_pos_right less (by decide))
  have legible : (write.entry key config.ttlDuration).Legible :=
    ⟨wellFormed, lossless, shallow, before created (by omega), before expires below⟩
  exact legible.ofText?_of_whole created expires

/-- A lookup finds the entry of the write that stands, as long as it lives. -/
theorem Tracks.answer_get (tracks : Tracks config address events (cache, space))
    (exact : ∀ event ∈ events, Exact config event) {clocks : Clocks}
    (past : ∀ event ∈ events, event.clocks.wall ≤ clocks.wall) (key : String) :
    (inTime paging).answer (cache, space) ⟨clocks, .get key⟩ =
      .ok (.found (Write.seen (standing? key events) key config.ttlDuration clocks.wall)) := by
  have found := tracks.holds clocks.wall past key
  rw [← tracks.place] at found
  rw [answer_inTime, SharedCache.answer_get, run_get_of_ready tracks.ready, SharedCache.seen, storeKey,
    found]
  -- What stands is under its key as a document, and this is read back as the entry.
  cases stood : Write.seen (standing? key events) key config.ttlDuration clocks.wall with
  | none => rfl
  | some entry =>
    obtain ⟨written, alive⟩ := Option.filter_eq_some_iff.1 stood
    obtain ⟨write, stands, rfl⟩ := Option.map_eq_some_iff.1 written
    have read := read_of_stands exact ((standing?_eq_some_iff key events write).1 stands)
    simp only [Option.map_some, Option.bind_some, Entry.stored, unexpired, read, Option.filter_some,
      alive, if_true]

end Steps

/-! ## Agreement -/

section Agreement

variable {config : Config} {address : StoreConfig} {paging : Keyspace.Paging} {events : List Event}
  {cache : SharedCache} {space : Keyspace} (unbounded : config.maxSize = none) (fair : paging.Fair)
  (created : SharedCache.create config address = .ok cache)
  (vacant : ∀ key stored, (address.keyPrefix ++ key, stored) ∉ space.items)

include unbounded fair created vacant

/-- Behind the same run, both caches answer a lookup alike. -/
theorem answer_get_run (exact : ∀ event ∈ events, Exact config event) (interval : Duration)
    (mono : Instant) {clocks : Clocks} (past : ∀ event ∈ events, event.clocks.wall ≤ clocks.wall)
    (key : String) :
    LocalCache.backend.answer (LocalCache.backend.run (LocalCache.fresh config interval mono) events)
        ⟨clocks, .get key⟩ =
      .ok (.found (Write.seen (standing? key events) key config.ttlDuration clocks.wall)) ∧
    (inTime paging).answer ((inTime paging).run (cache, space) events) ⟨clocks, .get key⟩ =
      .ok (.found (Write.seen (standing? key events) key config.ttlDuration clocks.wall)) := by
  have fits := holdsLifetimes_of_exact exact
  have nodup := LocalCache.nodup_keys_run config interval mono events
  refine ⟨?_, (tracks_run unbounded fair created vacant fits).answer_get exact past key⟩
  rw [LocalCache.answer_get, LocalCache.get_fst nodup,
    LocalCache.view_run unbounded interval mono fits past]

/-- Behind the same run, both caches have counted the same lookups. -/
theorem sameLookups_run (inOrder : InOrder events) (exact : ∀ event ∈ events, Exact config event)
    (interval : Duration) (mono : Instant) :
    (LocalCache.backend.run (LocalCache.fresh config interval mono) events).counters.SameLookups
      ((inTime paging).run (cache, space) events).1.counters := by
  induction events using List.reverseRecOn with
  | nil =>
    obtain rfl := create_eq_ok created
    exact ⟨rfl, rfl⟩
  | append_singleton events event ih =>
    obtain ⟨before, past⟩ := inOrder.of_append_singleton
    have exactBefore : ∀ earlier ∈ events, Exact config earlier :=
      fun earlier mem => exact earlier (by simp [mem])
    have lookups := answer_get_run unbounded fair created vacant exactBefore interval mono past
    have same := ih before exactBefore
    rw [Backend.run_append_singleton, Backend.run_append_singleton,
      LocalCache.counting_backend.step event rfl]
    generalize (inTime paging).run (cache, space) events = state at same lookups ⊢
    obtain ⟨after, held⟩ := state
    obtain ⟨written, tallied⟩ := exists_counters_step (Keyspace.store paging)
      (after, held.showing event.clocks.wall) event
    rw [step_inTime, tallied]
    -- Both have counted the same so far, and a lookup is answered alike.
    refine same.behind ?_ _ _
    intro key lookup
    obtain ⟨clocks, operation⟩ := event
    cases lookup
    obtain ⟨kept, found⟩ := lookups key
    rw [kept, ← answer_inTime, found]

/-- Behind the same run at whole seconds, every lookup returns the same from both caches, and the
statistics of both tell the same hits and misses. -/
theorem caches_agree (inOrder : InOrder events) (exact : ∀ event ∈ events, Exact config event)
    (interval : Duration) (mono : Instant) :
    (∀ clocks : Clocks, (∀ event ∈ events, event.clocks.wall ≤ clocks.wall) → ∀ key, ∃ hit,
      LocalCache.backend.answer
          (LocalCache.backend.run (LocalCache.fresh config interval mono) events)
          ⟨clocks, .get key⟩ = .ok (.found hit) ∧
      (inTime paging).answer ((inTime paging).run (cache, space) events)
          ⟨clocks, .get key⟩ = .ok (.found hit)) ∧
    ∀ clocks : Clocks, ∃ kept shared,
      LocalCache.backend.answer
          (LocalCache.backend.run (LocalCache.fresh config interval mono) events)
          ⟨clocks, .stats⟩ = .ok (.stats kept) ∧
      (inTime paging).answer ((inTime paging).run (cache, space) events)
          ⟨clocks, .stats⟩ = .ok (.stats shared) ∧
      kept.hits = shared.hits ∧ kept.misses = shared.misses := by
  refine ⟨?_, ?_⟩
  · intro clocks past key
    exact ⟨_, answer_get_run unbounded fair created vacant exact interval mono past key⟩
  · intro clocks
    have same := sameLookups_run unbounded fair created vacant inOrder exact interval mono
    generalize (inTime paging).run (cache, space) events = state at same
    obtain ⟨after, held⟩ := state
    -- To count the entries of the store leaves the counts of lookups alone.
    obtain ⟨hits, misses, -⟩ := counters_stats (Keyspace.store paging) clocks
      (after, held.showing clocks.wall)
    exact ⟨_, _, rfl, rfl, same.hits.trans hits.symm, same.misses.trans misses.symm⟩

end Agreement

/-- A key is written twice and lives for two seconds behind the second write. -/
def rewritten : List Event :=
  [⟨⟨(10 * nanosPerSecond : Nat), 0⟩, .set "a" (.ofText "first") "m" 3⟩,
    ⟨⟨(11 * nanosPerSecond : Nat), 5⟩, .get "a"⟩,
    ⟨⟨(11 * nanosPerSecond : Nat), 6⟩, .set "a" (.ofText "second") "m" 4⟩,
    ⟨⟨(12 * nanosPerSecond : Nat), 7⟩, .delete "b"⟩,
    ⟨⟨(12 * nanosPerSecond : Nat), 7⟩, .get "b"⟩]

/-- The settings under which keys live for two seconds. -/
def briefConfig : Config := { Config.default with ttl := 2 }

theorem exact_rewritten : ∀ event ∈ rewritten, Exact briefConfig event := by
  have second : ∀ n ≤ 12, ∃ seconds : Nat, ((n * nanosPerSecond : Nat) : Instant) =
      (seconds * nanosPerSecond : Nat) ∧ seconds + briefConfig.ttl.toNat < 2 ^ 53 := by
    intro n early
    exact ⟨n, rfl, Nat.lt_of_le_of_lt (Nat.add_le_add_right early _) (by decide)⟩
  have shallow : ∀ (now : Instant) (text : String) (tokens : UInt64),
      (Entry.create now "a" (.ofText text) "m" tokens briefConfig.ttlDuration).toJson.nesting ≤
        Json.maxNesting := by
    intro now text tokens
    rw [Entry.nesting_toJson]
    exact Nat.le_of_ble_eq_true rfl
  intro event mem
  fin_cases mem
  · refine ⟨second 10 (by decide), ?_⟩
    rintro _ _ _ _ ⟨⟩
    exact ⟨Response.wellFormed_ofText _, by decide +kernel, shallow _ _ _⟩
  · exact ⟨second 11 (by decide), nofun⟩
  · refine ⟨second 11 (by decide), ?_⟩
    rintro _ _ _ _ ⟨⟩
    exact ⟨Response.wellFormed_ofText _, by decide +kernel, shallow _ _ _⟩
  · exact ⟨second 12 (by decide), nofun⟩
  · exact ⟨second 12 (by decide), nofun⟩

/-- Both caches find the second of two writes one second before its end, and neither does at its
end. -/
theorem caches_agree_rewritten :
    ∃ cache, SharedCache.create briefConfig (.ofUrl "redis://localhost") = .ok cache ∧
      InOrder rewritten ∧ (∀ event ∈ rewritten, Exact briefConfig event) ∧
      (inTime .single).answer ((inTime .single).run (cache, .empty 0) rewritten)
        ⟨⟨(12 * nanosPerSecond : Nat), 9⟩, .get "a"⟩ =
          .ok (.found (some ⟨"a", .ofText "second", (11 * nanosPerSecond : Nat),
            (13 * nanosPerSecond : Nat), "m", 4⟩)) ∧
      (inTime .single).answer ((inTime .single).run (cache, .empty 0) rewritten)
        ⟨⟨(13 * nanosPerSecond : Nat), 9⟩, .get "a"⟩ = .ok (.found none) ∧
      ∃ stats, (inTime .single).answer ((inTime .single).run (cache, .empty 0) rewritten)
        ⟨⟨(13 * nanosPerSecond : Nat), 9⟩, .stats⟩ = .ok (.stats stats) ∧
        stats.hits = 1 ∧ stats.misses = 1 := by
  refine ⟨⟨briefConfig, .ofUrl "redis://localhost", false, none, 0, 0, 0⟩, rfl, by decide,
    exact_rewritten, ?_⟩
  have created : SharedCache.create briefConfig (.ofUrl "redis://localhost") =
      .ok ⟨briefConfig, .ofUrl "redis://localhost", false, none, 0, 0, 0⟩ := rfl
  have vacant : ∀ key stored, (StoreConfig.defaultKeyPrefix ++ key, stored) ∉
      (Keyspace.empty 0).items := nofun
  obtain ⟨lookups, counts⟩ := caches_agree rfl Keyspace.Paging.fair_single created vacant
    (show InOrder rewritten by decide) exact_rewritten 4 0
  refine ⟨?_, ?_, ?_⟩
  · obtain ⟨hit, kept, shared⟩ := lookups ⟨(12 * nanosPerSecond : Nat), 9⟩ (by decide) "a"
    have seen : ((LocalCache.backend.run (LocalCache.fresh briefConfig 4 0) rewritten).get
        ⟨(12 * nanosPerSecond : Nat), 9⟩ "a").1 = some ⟨"a", .ofText "second",
          (11 * nanosPerSecond : Nat), (13 * nanosPerSecond : Nat), "m", 4⟩ := by decide +kernel
    rw [LocalCache.answer_get, seen] at kept
    rw [shared, kept]
  · obtain ⟨hit, kept, shared⟩ := lookups ⟨(13 * nanosPerSecond : Nat), 9⟩ (by decide) "a"
    have lost : ((LocalCache.backend.run (LocalCache.fresh briefConfig 4 0) rewritten).get
        ⟨(13 * nanosPerSecond : Nat), 9⟩ "a").1 = none := by decide +kernel
    rw [LocalCache.answer_get, lost] at kept
    rw [shared, kept]
  · obtain ⟨kept, shared, told, also, hits, misses⟩ := counts ⟨(13 * nanosPerSecond : Nat), 9⟩
    cases told
    refine ⟨shared, also, hits.symm.trans ?_, misses.symm.trans ?_⟩
    · decide +kernel
    · decide +kernel

end SharedCache

end CompletionCache
