import CompletionCache.Proofs.SharedCache.Capacity
import CompletionCache.Proofs.Store.Agreement

/-!
# What operations come to over a store that keeps its word

Over such a store an operation is told by what it returns and leaves, without pages, commands and replies.
A cache that pauses behind a failure leaves the store alone (`performed_of_pausing`), and any other one
does what its `outcome` says. So the `effect` of an operation does not depend on how the scans go over the
keys (`performed_eq_effect`).
-/

set_option autoImplicit false

namespace CompletionCache.SharedCache

variable {σ : Type} {paging : Keyspace.Paging} {cache : SharedCache} {space : Keyspace}

/-! ## Reports -/

/-- The statistics of a cache with so many entries. -/
def tally (cache : SharedCache) (total : Nat) : Stats where
  backend := name
  totalEntries := total
  activeEntries := none
  maxSize := cache.config.maxSize
  hits := cache.hits
  misses := cache.misses
  sets := some cache.sets
  hitRate := hitRatio cache.hits cache.misses
  ttl := cache.config.ttl
  keyPrefix := some cache.store.keyPrefix

/-- The health report of a cache on what became of the question. -/
def report (cache : SharedCache) (asked : Except StoreFault (Duration × Nat)) : HealthReport :=
  let report := match asked with
    | .ok (latency, entries) =>
      { HealthReport.ofHealthy name with
        latencyMillis := some latency.toMillis
        entries := some entries }
    | .error fault => HealthReport.ofUnhealthy name fault.message
  { report with
    store := some cache.store.redactedUrl
    keyPrefix := some cache.store.keyPrefix }

section Reports

variable (store : Store σ) (clocks : Clocks) (state : SharedCache × σ)

theorem run_stats :
    (stats store clocks).run state =
      (((tryCount store clocks.mono).run.run state).2.1.tally
        (((tryCount store clocks.mono).run.run state).1.toOption.getD 0),
        ((tryCount store clocks.mono).run.run state).2) := rfl

theorem run_health :
    (health store clocks).run state =
      (((tryHealth store clocks.mono).run.run state).2.1.report
        ((tryHealth store clocks.mono).run.run state).1,
        ((tryHealth store clocks.mono).run.run state).2) := by
  rw [health, StateT.run_bind]
  generalize (tryHealth store clocks.mono).run.run state = asked
  obtain ⟨outcome, after⟩ := asked
  cases outcome <;> rfl

end Reports

/-! ## Operations -/

/-- What an operation returns and leaves over a store. -/
def performed (store : Store σ) (state : SharedCache × σ) (clocks : Clocks) :
    Operation → Answer × SharedCache × σ
  | .get key =>
    (.found ((get store clocks key).run state).1, ((get store clocks key).run state).2)
  | .set key response model tokens =>
    (.done, ((set store clocks key response model tokens).run state).2)
  | .delete key =>
    (.removed ((delete store clocks key).run state).1, ((delete store clocks key).run state).2)
  | .clear => (.done, ((clear store clocks).run state).2)
  | .stats => (.stats ((stats store clocks).run state).1, ((stats store clocks).run state).2)
  | .health => (.health ((health store clocks).run state).1, ((health store clocks).run state).2)

/-- No operation of a shared cache fails. -/
theorem answer_eq_performed (store : Store σ) (state : SharedCache × σ) (event : Event) :
    (backend store).answer state event = .ok (performed store state event.clocks event.operation).1 := by
  obtain ⟨clocks, operation⟩ := event
  cases operation <;> rfl

theorem step_eq_performed (store : Store σ) (state : SharedCache × σ) (event : Event) :
    (backend store).step state event = (performed store state event.clocks event.operation).2 := by
  obtain ⟨clocks, operation⟩ := event
  cases operation <;> rfl

/-! ## Outcomes -/

/-- The store without the keys that have to go so that no more remain than the capacity allows. -/
def withinCapacity (cache : SharedCache) (space : Keyspace) : Keyspace :=
  match cache.config.capacity? with
  | none => space
  | some maxSize =>
    (space.deleteAll (Eviction.select (space.ranked cache.store.keyPrefix) maxSize)).2

theorem withinCapacity_connected (cache : SharedCache) (space : Keyspace) :
    cache.connected.withinCapacity space = cache.withinCapacity space := by
  rw [withinCapacity, withinCapacity, config_connected, store_connected]

theorem written_connected (cache : SharedCache) (space : Keyspace) (now : Instant) (key : String)
    (response : Response) (model : String) (tokens : UInt64) :
    written cache.connected space now key response model tokens =
      written cache space now key response model tokens := by
  rw [written, written, storeKey_connected, config_connected]

/-- What an operation of a connected cache returns and leaves. -/
def outcome (cache : SharedCache) (space : Keyspace) (clocks : Clocks) :
    Operation → Answer × SharedCache × Keyspace
  | .get key =>
    let hit := seen space (cache.storeKey key) clocks.wall
    (.found hit, cache.counted hit, space)
  | .set key response model tokens =>
    (.done, { cache with sets := cache.sets + 1 },
      cache.withinCapacity (written cache space clocks.wall key response model tokens))
  | .delete key =>
    (.removed (space.contains (cache.storeKey key)), cache, space.erase (cache.storeKey key))
  | .clear =>
    (.done, { cache with hits := 0, misses := 0, sets := 0 },
      (space.deleteAll (space.under cache.store.keyPrefix)).2)
  | .stats => (.stats (cache.tally (space.under cache.store.keyPrefix).length), cache, space)
  | .health =>
    (.health (cache.report (.ok (0, (space.under cache.store.keyPrefix).length))), cache, space)

/-- What an operation returns and leaves of a cache that does not come to its store. -/
def missedOutcome (cache : SharedCache) (fault : StoreFault) : Operation → Answer × SharedCache
  | .get _ => (.found none, cache.counted none)
  | .set _ _ _ _ => (.done, cache)
  | .delete _ => (.removed false, cache)
  | .clear => (.done, { cache with hits := 0, misses := 0, sets := 0 })
  | .stats => (.stats (cache.tally 0), cache)
  | .health => (.health (cache.report (.error fault)), cache)

theorem isConnected_missedOutcome (cache : SharedCache) (fault : StoreFault) (operation : Operation) :
    (cache.missedOutcome fault operation).2.isConnected = cache.isConnected := by
  cases operation <;> rfl

theorem lastFailure_missedOutcome (cache : SharedCache) (fault : StoreFault) (operation : Operation) :
    (cache.missedOutcome fault operation).2.lastFailure = cache.lastFailure := by
  cases operation <;> rfl

/-! ## Connections -/

@[simp]
theorem connected_connected (cache : SharedCache) : cache.connected.connected = cache.connected :=
  if_pos cache.isConnected_connected

section Behind

variable {α : Type} {now : Instant}

/-- What goes on behind a connection goes on as it would have from a connected cache. -/
theorem run_connect_bind (joins : cache.pause? now = none) (next : Unit → Attempting Keyspace α) :
    (connect (Keyspace.store paging) now >>= next).run.run (cache, space) =
      (connect (Keyspace.store paging) now >>= next).run.run (cache.connected, space) := by
  have first : (connect (Keyspace.store paging) now).run.run (cache, space) = _ :=
    run_connect_eq cache space now
  have again : (connect (Keyspace.store paging) now).run.run (cache.connected, space) = _ :=
    run_connect_eq cache.connected space now
  -- Both end up connected, and a connected cache is not connected again.
  rw [joins] at first
  rw [cache.ready_connected.pause?_eq_none, connected_connected] at again
  rw [run_bind_of_ok first, run_bind_of_ok again]

end Behind

/-! ## Operations that do not come to the store -/

section Missed

variable (store : Store σ) (clocks : Clocks) (cache : SharedCache) (state : σ)

/-- What a write tries behind the connection. -/
theorem run_trySet_eq (key : String) (response : Response) (model : String) (tokens : UInt64) :
    (trySet store clocks key response model tokens).run.run (cache, state) =
      (connect store clocks.mono >>= fun _ =>
        send store (.put (cache.storeKey key) (Entry.create clocks.wall key response model tokens
          cache.config.ttlDuration).toJson.text cache.config.ttl) Reply.readDone).run.run
            (cache, state) := by
  rw [trySet, run_bind_of_ok (run_current _)]

/-- What a question for the health tries behind the connection. -/
theorem run_tryHealth_eq :
    (tryHealth store clocks.mono).run.run (cache, state) =
      (connect store clocks.mono >>= fun _ => do
        let _ ← send store .ping Reply.readText
        let latency := (← waited store) - store.waited state
        return (latency, (← scan store).length)).run.run (cache, state) := by
  have start : (waited store).run.run (cache, state) = (.ok (store.waited state), (cache, state)) :=
    rfl
  rw [tryHealth, run_bind_of_ok start]

variable {store clocks cache state} {after : SharedCache × σ} {fault : StoreFault}

/-- An operation without a connection leaves everything as the attempt to connect left it, but for its
counts. -/
theorem performed_of_missed
    (missed : (connect store clocks.mono).run.run (cache, state) = (.error fault, after))
    (operation : Operation) :
    performed store (cache, state) clocks operation =
      ((after.1.missedOutcome fault operation).1, (after.1.missedOutcome fault operation).2,
        after.2) := by
  cases operation with
  | get key =>
    rw [performed, run_get, tryGet, run_bind_of_error missed]
    rfl
  | set key response model tokens =>
    rw [performed, run_set, run_trySet_eq, run_bind_of_error missed]
    rfl
  | delete key =>
    rw [performed, run_delete, tryDelete, run_bind_of_error missed]
    rfl
  | clear =>
    rw [performed, run_clear, tryClear, run_bind_of_error missed]
    rfl
  | stats =>
    rw [performed, run_stats, tryCount, run_bind_of_error missed]
    rfl
  | health =>
    rw [performed, run_health, run_tryHealth_eq, run_bind_of_error missed]
    rfl

/-- A cache that pauses leaves the store alone. -/
theorem performed_of_pausing {since : Duration} (pausing : cache.pause? clocks.mono = some since)
    (operation : Operation) :
    performed store (cache, state) clocks operation =
      ((cache.missedOutcome (.pausing since) operation).1,
        (cache.missedOutcome (.pausing since) operation).2, state) :=
  performed_of_missed (run_connect_of_pausing store state pausing) operation

end Missed

/-! ## Operations of a cache that is ready -/

section Ready

variable (ready : cache.Ready) (clocks : Clocks)

include ready

theorem run_delete_of_ready (key : String) :
    (delete (Keyspace.store paging) clocks key).run (cache, space) =
      (space.contains (cache.storeKey key),
        (cache.connected, space.erase (cache.storeKey key))) := by
  rw [run_delete, run_tryDelete ready clocks.mono]
  cases space.contains (cache.storeKey key) <;> rfl

variable (fair : paging.Fair)

include fair

theorem run_set_of_ready (key : String) (response : Response) (model : String) (tokens : UInt64) :
    (set (Keyspace.store paging) clocks key response model tokens).run (cache, space) =
      ((), ({ cache.connected with sets := cache.connected.sets + 1 },
        cache.withinCapacity (written cache space clocks.wall key response model tokens))) := by
  cases bounded : cache.config.maxSize with
  | none =>
    have unlimited : cache.config.capacity? = none := by
      rw [Config.capacity?, bounded]
      rfl
    rw [run_set_unbounded ready clocks bounded, withinCapacity, unlimited]
    rfl
  | some maxSize =>
    have limited : cache.config.capacity? = some maxSize.toNat := by
      rw [Config.capacity?, bounded]
      rfl
    have ok : ((trySet (Keyspace.store paging) clocks key response model tokens).run.run
        (cache, space)).1 = .ok () := by
      rw [run_trySet ready]
    rw [run_set_bounded fair bounded ok, withinCapacity, limited]

theorem run_clear_of_ready :
    (clear (Keyspace.store paging) clocks).run (cache, space) =
      ((), ({ cache.connected with hits := 0, misses := 0, sets := 0 },
        (space.deleteAll (space.under cache.store.keyPrefix)).2)) := by
  rw [run_clear, run_tryClear ready clocks.mono fair]

theorem run_stats_of_ready :
    (stats (Keyspace.store paging) clocks).run (cache, space) =
      (cache.connected.tally (space.under cache.store.keyPrefix).length,
        (cache.connected, space)) := by
  rw [run_stats, run_tryCount ready clocks.mono fair]
  rfl

theorem run_health_of_ready :
    (health (Keyspace.store paging) clocks).run (cache, space) =
      (cache.connected.report (.ok (0, (space.under cache.store.keyPrefix).length)),
        (cache.connected, space)) := by
  rw [run_health, run_tryHealth ready clocks.mono fair]

/-- A cache that is ready does what its outcome says. -/
theorem performed_of_ready (operation : Operation) :
    performed (Keyspace.store paging) (cache, space) clocks operation =
      cache.connected.outcome space clocks operation := by
  cases operation with
  | get key => rw [performed, run_get_of_ready ready, outcome, storeKey_connected]
  | set key response model tokens =>
    rw [performed, run_set_of_ready ready clocks fair, outcome, withinCapacity_connected,
      written_connected]
  | delete key => rw [performed, run_delete_of_ready ready, outcome, storeKey_connected]
  | clear =>
    rw [performed, run_clear_of_ready ready clocks fair, ← store_connected]
    rfl
  | stats => rw [performed, run_stats_of_ready ready clocks fair, outcome, store_connected]
  | health => rw [performed, run_health_of_ready ready clocks fair, outcome, store_connected]

end Ready

/-! ## Operations of any cache -/

section Behind

variable (space) (clocks : Clocks)

/-- A cache that does not pause does what it would do once it is connected. -/
theorem performed_connected (joins : cache.pause? clocks.mono = none) (operation : Operation) :
    performed (Keyspace.store paging) (cache, space) clocks operation =
      performed (Keyspace.store paging) (cache.connected, space) clocks operation := by
  -- What an operation reads of the cache before it connects is not changed by connecting.
  cases operation with
  | get key => rw [performed, performed, run_get, run_get, tryGet, run_connect_bind joins]
  | set key response model tokens =>
    rw [performed, performed, run_set, run_set, run_trySet_eq, run_trySet_eq, run_connect_bind joins,
      storeKey_connected, config_connected]
  | delete key => rw [performed, performed, run_delete, run_delete, tryDelete, run_connect_bind joins]
  | clear => rw [performed, performed, run_clear, run_clear, tryClear, run_connect_bind joins]
  | stats => rw [performed, performed, run_stats, run_stats, tryCount, run_connect_bind joins]
  | health =>
    rw [performed, performed, run_health, run_health, run_tryHealth_eq, run_tryHealth_eq,
      run_connect_bind joins]

end Behind

/-- What an operation returns and leaves. -/
def effect (cache : SharedCache) (space : Keyspace) (clocks : Clocks) (operation : Operation) :
    Answer × SharedCache × Keyspace :=
  match cache.pause? clocks.mono with
  | none => cache.connected.outcome space clocks operation
  | some since =>
    ((cache.missedOutcome (.pausing since) operation).1,
      (cache.missedOutcome (.pausing since) operation).2, space)

/-- Every operation does what its effect says, however a scan goes over the keys. -/
theorem performed_eq_effect (fair : paging.Fair) (cache : SharedCache) (space : Keyspace)
    (clocks : Clocks) (operation : Operation) :
    performed (Keyspace.store paging) (cache, space) clocks operation =
      cache.effect space clocks operation := by
  rw [effect]
  cases pause : cache.pause? clocks.mono with
  | none =>
    rw [performed_connected space clocks pause,
      performed_of_ready cache.ready_connected clocks fair, connected_connected]
  | some since => exact performed_of_pausing pause operation

end CompletionCache.SharedCache
