import CompletionCache.Proofs.LocalCache.LastWrite
import CompletionCache.Proofs.SharedCache.Kept

/-!
# A shared cache in time with its store

A store that keeps its word and whose clock shows the wall clock of each operation holds, under the
prefix, nothing but what stands (`tracks_run`): behind a run, a document is found under a key exactly
as long as the standing write lives.
-/

set_option autoImplicit false

namespace CompletionCache

/-- What a store holds of an entry: its document, until it expires. -/
def Entry.stored (entry : Entry) : Stored := ⟨entry.toJson.text, some entry.expiresAt⟩

theorem Entry.isLiveAt_stored (entry : Entry) (now : Instant) :
    entry.stored.isLiveAt now = !entry.isExpiredAt now := by
  rw [isExpiredAt, ← decide_not, stored, Stored.isLiveAt]
  exact decide_eq_decide.2 Int.not_le.symm

namespace SharedCache

/-- The clock of the store shows the wall clock. -/
def settle (clocks : Clocks) : StateM (SharedCache × Keyspace) Unit :=
  modify fun (cache, space) => (cache, space.showing clocks.wall)

/-- The cache over a store that keeps its word and whose clock shows the wall clock. -/
def inTime (paging : Keyspace.Paging) : Backend (SharedCache × Keyspace) where
  name := name
  get clocks key := do
    settle clocks
    get (Keyspace.store paging) clocks key
  set clocks key response model tokens := do
    settle clocks
    set (Keyspace.store paging) clocks key response model tokens
  delete clocks key := do
    settle clocks
    delete (Keyspace.store paging) clocks key
  clear clocks := do
    settle clocks
    clear (Keyspace.store paging) clocks
  stats clocks := do
    settle clocks
    stats (Keyspace.store paging) clocks
  health clocks := do
    settle clocks
    health (Keyspace.store paging) clocks

section Operations

variable {paging : Keyspace.Paging} {cache : SharedCache} {space : Keyspace} (clocks : Clocks)

theorem answer_inTime (event : Event) :
    (inTime paging).answer (cache, space) event =
      (backend (Keyspace.store paging)).answer (cache, space.showing event.clocks.wall) event := by
  obtain ⟨clocks, operation⟩ := event
  cases operation <;> rfl

theorem step_inTime (event : Event) :
    (inTime paging).step (cache, space) event =
      (backend (Keyspace.store paging)).step (cache, space.showing event.clocks.wall) event := by
  obtain ⟨clocks, operation⟩ := event
  cases operation <;> rfl

end Operations

/-! ## What the store holds -/

/-- A cache keeps its settings and does not pause, and behind a run the store holds under the prefix
the documents of the writes that stand, each as long as it lives. -/
structure Tracks (config : Config) (address : StoreConfig) (events : List Event)
    (state : SharedCache × Keyspace) : Prop where
  settings : state.1.config = config
  place : state.1.store = address
  ready : state.1.Ready
  holds : ∀ now, (∀ event ∈ events, event.clocks.wall ≤ now) → ∀ key,
    (state.2.showing now).find? (address.keyPrefix ++ key) =
      (Write.seen (standing? key events) key config.ttlDuration now).map Entry.stored

section Steps

variable {config : Config} {address : StoreConfig} {paging : Keyspace.Paging} {events : List Event}
  {cache : SharedCache} {space : Keyspace}

/-- An operation that neither writes nor removes anything leaves everything tracked. -/
theorem Tracks.passive (tracks : Tracks config address events (cache, space)) {event : Event}
    (passive : ∀ key, event.operation.decides key = false) {after : SharedCache}
    (settings : after.config = cache.config) (place : after.store = cache.store)
    (ready : after.Ready) :
    Tracks config address (events ++ [event]) (after, space.showing event.clocks.wall) := by
  refine ⟨settings.trans tracks.settings, place.trans tracks.place, ready, ?_⟩
  intro now past key
  rw [standing?_append_singleton, standingAfter_of_not_decides (passive key)]
  exact tracks.holds now (fun earlier mem => past earlier (by simp [mem])) key

/-- A write is found under its own key until it expires, and every other key finds what it found. -/
theorem Tracks.set (tracks : Tracks config address events (cache, space)) {clocks : Clocks}
    (fits : clocks.wall + config.ttlDuration < Instant.clockEnd) (key : String)
    (response : Response) (model : String) (tokens : UInt64) {after : SharedCache}
    (settings : after.config = cache.config) (place : after.store = cache.store)
    (ready : after.Ready) :
    Tracks config address (events ++ [⟨clocks, .set key response model tokens⟩])
      (after, (space.showing clocks.wall).put (cache.storeKey key)
        ⟨(Entry.create clocks.wall key response model tokens
          cache.config.ttlDuration).toJson.text,
          some ((space.showing clocks.wall).now + cache.config.ttlDuration)⟩) := by
  refine ⟨settings.trans tracks.settings, place.trans tracks.place, ready, ?_⟩
  intro now past other
  have before := tracks.holds now (fun earlier mem => past earlier (by simp [mem])) other
  have later : (((space.showing clocks.wall).put (cache.storeKey key)
      ⟨(Entry.create clocks.wall key response model tokens cache.config.ttlDuration).toJson.text,
        some ((space.showing clocks.wall).now + cache.config.ttlDuration)⟩).showing now) =
      (space.showing now).put (address.keyPrefix ++ key)
        (Entry.stored (Write.entry ⟨clocks.wall, response, model, tokens⟩ key
          config.ttlDuration)) := by
    rw [tracks.settings, Entry.create_eq_entry fits, storeKey, tracks.place]
    rfl
  -- The store keeps the document while it lives, which is how long the write is seen.
  rw [later, Keyspace.find?_put, standing?_append_singleton, standingAfter]
  by_cases same : key = other
  · subst same
    rw [if_pos rfl]
    simp only [if_true, Write.seen, Option.map_some, Option.filter_some, Entry.isLiveAt_stored,
      Keyspace.now_showing]
    split_ifs <;> rfl
  · have apart : address.keyPrefix ++ other ≠ address.keyPrefix ++ key :=
      fun eq => same ((String.append_right_inj _).1 eq).symm
    rw [if_neg apart, before]
    simp [same]

/-- Behind a deletion nothing is found under its key. -/
theorem Tracks.delete (tracks : Tracks config address events (cache, space)) (clocks : Clocks)
    (key : String) {after : SharedCache} (settings : after.config = cache.config)
    (place : after.store = cache.store) (ready : after.Ready) :
    Tracks config address (events ++ [⟨clocks, .delete key⟩])
      (after, (space.showing clocks.wall).erase (cache.storeKey key)) := by
  refine ⟨settings.trans tracks.settings, place.trans tracks.place, ready, ?_⟩
  intro now past other
  have before := tracks.holds now (fun earlier mem => past earlier (by simp [mem])) other
  have later : ((space.showing clocks.wall).erase (cache.storeKey key)).showing now =
      (space.showing now).erase (address.keyPrefix ++ key) := by
    rw [storeKey, tracks.place]
    rfl
  rw [later, Keyspace.find?_erase, standing?_append_singleton, standingAfter]
  by_cases same : key = other
  · subst same
    simp [Write.seen]
  · have apart : address.keyPrefix ++ other ≠ address.keyPrefix ++ key :=
      fun eq => same ((String.append_right_inj _).1 eq).symm
    rw [if_neg apart, before]
    simp [same]

/-- Behind a removal of everything under the prefix nothing is found there any more: what had expired
and was not removed stays so. -/
theorem Tracks.clear (tracks : Tracks config address events (cache, space)) (clocks : Clocks)
    {after : SharedCache} (settings : after.config = cache.config)
    (place : after.store = cache.store) (ready : after.Ready) :
    Tracks config address (events ++ [⟨clocks, .clear⟩])
      (after, ((space.showing clocks.wall).deleteAll
        ((space.showing clocks.wall).under cache.store.keyPrefix)).2) := by
  refine ⟨settings.trans tracks.settings, place.trans tracks.place, ready, ?_⟩
  intro now past key
  have order : clocks.wall ≤ now := past ⟨clocks, .clear⟩ (by simp)
  have removed := (space.showing clocks.wall).find?_deleteAll_under address.keyPrefix
    (address.keyPrefix ++ key) order
  rw [if_pos (beginsWith_append _ _)] at removed
  rw [standing?_append_singleton, standingAfter]
  dsimp only
  rw [tracks.place, removed]
  rfl

/-- Whatever the operation is, what stands is tracked behind it. -/
theorem Tracks.step (tracks : Tracks config address events (cache, space))
    (unbounded : config.maxSize = none) (fair : paging.Fair) {event : Event}
    (fits : event.clocks.wall + config.ttlDuration < Instant.clockEnd) :
    Tracks config address (events ++ [event]) ((inTime paging).step (cache, space) event) := by
  have ready : cache.Ready := tracks.ready
  have connectedReady := cache.ready_connected
  rw [step_inTime]
  obtain ⟨clocks, operation⟩ := event
  -- Each operation does to the store what it does to the writes that stand.
  cases operation with
  | get key =>
    rw [step_get, run_get, run_tryGet_snd ready]
    exact tracks.passive (fun _ => rfl) (by simp) (by simp) (connectedReady.counted _)
  | set key response model tokens =>
    have settings : cache.config.maxSize = none := tracks.settings ▸ unbounded
    rw [step_set, run_set_unbounded ready clocks settings]
    exact tracks.set fits key response model tokens (by simp) (by simp) connectedReady
  | delete key =>
    rw [step_delete, run_delete, run_tryDelete ready clocks.mono]
    exact tracks.delete clocks key (by simp) (by simp) connectedReady
  | clear =>
    rw [step_clear, run_clear, run_tryClear ready clocks.mono fair]
    exact tracks.clear clocks (by simp) (by simp) connectedReady
  | stats =>
    rw [step_stats, run_stats_snd, run_tryCount ready clocks.mono fair]
    exact tracks.passive (fun _ => rfl) (by simp) (by simp) connectedReady
  | health =>
    rw [step_health, run_health_snd, run_tryHealth ready clocks.mono fair]
    exact tracks.passive (fun _ => rfl) (by simp) (by simp) connectedReady

theorem create_eq_ok (created : SharedCache.create config address = .ok cache) :
    cache = ⟨config, address, false, none, 0, 0, 0⟩ := by
  obtain ⟨-, -, created⟩ := Json.bind_eq_ok.1 created
  cases opened : address.endpoint with
  | error fault =>
    rw [opened] at created
    cases created
  | ok endpoint =>
    rw [opened] at created
    exact (Except.ok.inj created).symm

/-- Before a run nothing stands, and nothing is found under a prefix that nobody has used. -/
theorem tracks_nil (created : SharedCache.create config address = .ok cache)
    (vacant : ∀ key stored, (address.keyPrefix ++ key, stored) ∉ space.items) :
    Tracks config address [] (cache, space) := by
  obtain rfl := create_eq_ok created
  refine ⟨rfl, rfl, .inr rfl, ?_⟩
  intro now _ key
  have absent : (space.showing now).find? (address.keyPrefix ++ key) = none := by
    rw [Option.eq_none_iff_forall_ne_some]
    intro stored found
    obtain ⟨held, mem, -⟩ := Keyspace.holds_of_find? found
    exact vacant key held mem
  exact absent

/-- Along a run, what stands is tracked. -/
theorem tracks_run (unbounded : config.maxSize = none) (fair : paging.Fair)
    (created : SharedCache.create config address = .ok cache)
    (vacant : ∀ key stored, (address.keyPrefix ++ key, stored) ∉ space.items)
    (fits : HoldsLifetimes config events) :
    Tracks config address events ((inTime paging).run (cache, space) events) := by
  induction events using List.reverseRecOn with
  | nil => exact tracks_nil created vacant
  | append_singleton events event ih =>
    rw [Backend.run_append_singleton]
    exact (ih fun earlier mem => fits earlier (by simp [mem])).step unbounded fair
      (fits event (by simp))

end Steps

end SharedCache

end CompletionCache
