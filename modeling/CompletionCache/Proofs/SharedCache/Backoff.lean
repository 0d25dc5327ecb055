import CompletionCache.Proofs.SharedCache.Outcome
import CompletionCache.Proofs.SharedCache.RoundTrip

/-!
# Pauses between attempts to connect

An operation goes one of three ways. Over a connection that stands it only sends commands, whatever
becomes of them (`step_of_connected`). Behind a failure that is too recent it leaves the store alone
(`step_of_pausing`). Otherwise it dials first, and it goes on only if that connects it
(`step_of_joined`, `step_of_missed`). So a failure is followed by a pause that nothing prolongs, and the
first operation behind the pause dials again; a cache that has connected never does
(`dials_again_only_behind_pause`).
-/

set_option autoImplicit false

namespace CompletionCache.SharedCache

variable {σ : Type} {store : Store σ} {cache : SharedCache} {state after : σ} {attempt : Attempt}

/-! ## How an attempt to connect ends -/

/-- What comes of an attempt to connect. -/
def ended (cache : SharedCache) : Attempt → Except StoreFault Unit
  | .connected => .ok ()
  | .failed fault => .error (.command fault)
  | .timedOut => .error (.connectTimeout cache.store.redactedUrl cache.store.connectTimeout)

/-- The cache behind an attempt to connect that ended at an instant. -/
def dialled (cache : SharedCache) (ending : Instant) : Attempt → SharedCache
  | .connected => { cache with isConnected := true, lastFailure := none }
  | .failed _ => { cache with lastFailure := some ending }
  | .timedOut => { cache with lastFailure := some ending }

/-- The instant at which something ends that begins at an instant and takes the store from one state to
another. -/
def ending (store : Store σ) (now : Instant) (before after : σ) : Instant :=
  now + (store.waited after - store.waited before : Nat)

theorem run_dial (tried : (store.connect cache.store.connectTimeout).run state = (attempt, after))
    (now : Instant) :
    (dial store now cache).run.run (cache, state) =
      (cache.ended attempt, cache.dialled (ending store now state after) attempt, after) := by
  have start : (waited store).run.run (cache, state) = (.ok (store.waited state), (cache, state)) :=
    rfl
  rw [dial, run_bind_of_ok start, run_bind_of_ok (run_onStore _ _), tried]
  cases attempt <;> rfl

/-! ## The pause -/

theorem remaining_lt_retryPause_iff {now failure : Instant} :
    Instant.remaining now failure < retryPause ↔ now < failure + retryPause := by
  rw [Instant.remaining]
  constructor
  · intro soon
    have soon' : now - failure < (retryPause : Nat) := (Int.toNat_lt' (by decide)).1 soon
    exact Int.add_comm _ _ ▸ Int.lt_add_of_sub_right_lt soon'
  · intro soon
    exact (Int.toNat_lt' (by decide)).2 (Int.sub_left_lt_of_lt_add soon)

/-- A cache that is not connected pauses for as long as its last failure is too recent. -/
theorem pause?_eq_some_of_lt {failure now : Instant} (apart : cache.isConnected = false)
    (failed : cache.lastFailure = some failure) (soon : now < failure + retryPause) :
    cache.pause? now = some (Instant.remaining now failure) :=
  pause?_eq_some_iff.2 ⟨apart, failure, failed, rfl, remaining_lt_retryPause_iff.2 soon⟩

theorem pause?_eq_none_of_le {failure now : Instant} (failed : cache.lastFailure = some failure)
    (late : failure + retryPause ≤ now) : cache.pause? now = none := by
  rw [Option.eq_none_iff_forall_ne_some]
  intro since pausing
  obtain ⟨-, other, same, rfl, soon⟩ := pause?_eq_some_iff.1 pausing
  obtain rfl := Option.some.inj (failed.symm.trans same)
  exact not_lt_of_ge late (remaining_lt_retryPause_iff.1 soon)

/-! ## Connected caches -/

section Connected

variable (P : σ → Prop)
  (answers : ∀ command state, P state → P ((store.answer command).run state).2)

include answers

/-- A connection stands, and what answers keep is kept over it. -/
theorem sustained_connected :
    Sustained store (fun _ => True) fun state => state.1.isConnected = true ∧ P state.2 where
  connect now := by
    rintro ⟨cache, state⟩ holds
    rw [run_connect_of_connected store state holds.1 now]
    exact ⟨holds, fun _ _ => trivial⟩
  answer _ _ _ holds := ⟨holds.1, answers _ _ holds.2⟩

/-- Whatever commands fail, a connected cache stays connected, and all that it does to its store is to
send commands. -/
theorem step_of_connected (connected : cache.isConnected = true) (holds : P state) (event : Event) :
    ((backend store).step (cache, state) event).1.isConnected = true ∧
      P ((backend store).step (cache, state) event).2 := by
  have sustained := sustained_connected P answers
  have stands : (cache, state).1.isConnected = true ∧ P (cache, state).2 := ⟨connected, holds⟩
  obtain ⟨clocks, operation⟩ := event
  cases operation with
  | get key =>
    obtain ⟨hit, cache', after, ran, kept, -⟩ := sustained.get clocks stands (fun _ => trivial) key
    rw [step_get, ran]
    exact ⟨(isConnected_counted cache' hit).trans kept.1, kept.2⟩
  | set key response model tokens =>
    -- To count the write does not take the connection away.
    have tried := ensures_trySet sustained (fun _ _ _ => trivial) clocks key response model tokens
    exact sustained.set clocks stands tried (fun holds => holds) (fun _ => trivial)
      (fun _ _ _ => trivial) fun _ => trivial
  | delete key => exact sustained.delete clocks stands (fun _ => trivial) key
  | clear =>
    obtain ⟨cache', after, ran, kept⟩ :=
      sustained.clear clocks stands (fun _ _ _ => trivial) fun _ => trivial
    rw [step_clear, ran]
    exact kept
  | stats => exact sustained.stats clocks stands fun _ _ _ => trivial
  | health => exact sustained.health clocks stands trivial fun _ _ _ => trivial

end Connected

/-! ## Caches that dial -/

/-- The question for the health: when it was answered, and the count of entries. -/
def asking (store : Store σ) : Attempting σ (Duration × Nat) := do
  let _ ← send store .ping Reply.readText
  return (← waited store, (← scan store).length)

/-- What a question for the health leaves does not depend on when it began. -/
theorem snd_run_tryHealth (clocks : Clocks) (cache : SharedCache) (state : σ) :
    ((tryHealth store clocks.mono).run.run (cache, state)).2 =
      ((connect store clocks.mono >>= fun _ => asking store).run.run (cache, state)).2 := by
  have asked : (connect store clocks.mono >>= fun _ => do
        let _ ← send store .ping Reply.readText
        let latency := (← waited store) - store.waited state
        return (latency, (← scan store).length)) =
      (fun told : Duration × Nat => (told.1 - store.waited state, told.2)) <$>
        (connect store clocks.mono >>= fun _ => asking store) := by
    simp only [asking, map_bind, map_pure]
  rw [run_tryHealth_eq, asked, ExceptT.run_map, StateT.run_map]
  rfl

section Dialling

variable {before joined : SharedCache × σ} {clocks : Clocks}

/-- An operation that connects leaves what it would have left over the connection. -/
theorem performed_of_joined
    (joins : (connect store clocks.mono).run.run before = (.ok (), joined))
    (connected : joined.1.isConnected = true) (config : joined.1.config = before.1.config)
    (address : joined.1.store = before.1.store) (operation : Operation) :
    (performed store before clocks operation).2 = (performed store joined clocks operation).2 := by
  have stands := run_connect_of_connected store joined.2 connected clocks.mono
  obtain ⟨cache, state⟩ := before
  obtain ⟨cache', after⟩ := joined
  cases operation with
  | get key =>
    rw [performed, performed, run_get, run_get, tryGet, run_bind_of_ok joins, run_bind_of_ok stands]
  | set key response model tokens =>
    have place : cache'.storeKey key = cache.storeKey key := congrArg (·.keyPrefix ++ key) address
    rw [performed, performed, run_set, run_set, run_trySet_eq, run_trySet_eq, run_bind_of_ok joins,
      run_bind_of_ok stands, place, config]
  | delete key =>
    rw [performed, performed, run_delete, run_delete, tryDelete, run_bind_of_ok joins,
      run_bind_of_ok stands]
  | clear =>
    rw [performed, performed, run_clear, run_clear, tryClear, run_bind_of_ok joins,
      run_bind_of_ok stands]
  | stats =>
    rw [performed, performed, run_stats, run_stats, tryCount, run_bind_of_ok joins,
      run_bind_of_ok stands]
  | health =>
    -- The latency that is told is another one, but it is not part of what is left.
    rw [performed, performed, run_health_snd, run_health_snd, snd_run_tryHealth, snd_run_tryHealth,
      run_bind_of_ok joins, run_bind_of_ok stands]

variable {event : Event} (apart : cache.isConnected = false)
  (due : cache.pause? event.clocks.mono = none)
  (tried : (store.connect cache.store.connectTimeout).run state = (attempt, after))

include apart due tried

/-- An operation that dials in vain leaves the cache with the failure and the store as the attempt left
it. -/
theorem step_of_missed (missed : attempt ≠ .connected) :
    ((backend store).step (cache, state) event).1.isConnected = false ∧
      ((backend store).step (cache, state) event).1.lastFailure =
        some (ending store event.clocks.mono state after) ∧
      ((backend store).step (cache, state) event).2 = after := by
  have ran := (run_connect_of_due store state apart due).trans (run_dial tried event.clocks.mono)
  rw [step_eq_performed]
  cases attempt with
  | connected => exact absurd rfl missed
  | failed fault =>
    rw [performed_of_missed ran]
    exact ⟨(isConnected_missedOutcome _ _ _).trans apart, lastFailure_missedOutcome _ _ _, rfl⟩
  | timedOut =>
    rw [performed_of_missed ran]
    exact ⟨(isConnected_missedOutcome _ _ _).trans apart, lastFailure_missedOutcome _ _ _, rfl⟩

/-- An operation that connects goes on as any other one over a connection. -/
theorem step_of_joined (P : σ → Prop)
    (answers : ∀ command state, P state → P ((store.answer command).run state).2)
    (connected : attempt = .connected) (holds : P after) :
    ((backend store).step (cache, state) event).1.isConnected = true ∧
      P ((backend store).step (cache, state) event).2 := by
  have ran := (run_connect_of_due store state apart due).trans (run_dial tried event.clocks.mono)
  subst connected
  rw [step_eq_performed, performed_of_joined ran rfl rfl rfl, ← step_eq_performed]
  exact step_of_connected P answers rfl holds event

end Dialling

/-! ## What passes -/

/-- Nothing but commands passes. -/
def OnlyCommands (exchanges : List Exchange) : Prop := ∀ exchange ∈ exchanges, exchange.isDial = false

/-- Behind what has passed before, nothing but commands has passed. -/
def OnlyCommandsBehind (front : List Exchange) (state : σ × List Exchange) : Prop :=
  ∃ commands, state.2 = front ++ commands ∧ OnlyCommands commands

theorem onlyCommandsBehind_answer (store : Store σ) (front : List Exchange) (command : Command)
    (state : σ × List Exchange) (holds : OnlyCommandsBehind front state) :
    OnlyCommandsBehind front ((store.recorded.answer command).run state).2 := by
  obtain ⟨state, record⟩ := state
  obtain ⟨commands, rfl, alone⟩ := holds
  rw [Store.run_recorded_answer]
  refine ⟨commands ++ [_], List.append_assoc _ _ _, ?_⟩
  intro exchange mem
  rcases List.mem_append.1 mem with earlier | last
  · exact alone exchange earlier
  · cases List.mem_singleton.1 last
    rfl

theorem passing_of_connected (connected : cache.isConnected = true) (event : Event) :
    OnlyCommands (passing store (cache, state) event) := by
  have begins : OnlyCommandsBehind [] (state, []) := ⟨[], rfl, nofun⟩
  obtain ⟨-, commands, passed, alone⟩ := step_of_connected (OnlyCommandsBehind [])
    (onlyCommandsBehind_answer store []) connected begins event
  rw [passing, passed]
  exact alone

theorem passing_of_pausing {event : Event} {since : Duration}
    (pausing : cache.pause? event.clocks.mono = some since) :
    passing store (cache, state) event = [] := by
  rw [passing, step_eq_performed, performed_of_pausing pausing]

/-- A cache that is to dial does so first, once, and in vain if it does not connect. -/
theorem passing_of_due {event : Event} (apart : cache.isConnected = false)
    (due : cache.pause? event.clocks.mono = none)
    (tried : (store.connect cache.store.connectTimeout).run state = (attempt, after)) :
    ∃ commands, passing store (cache, state) event = .dialled attempt :: commands ∧
      OnlyCommands commands ∧ (attempt ≠ .connected → commands = []) := by
  have recorded : (store.recorded.connect cache.store.connectTimeout).run (state, []) =
      (attempt, after, [.dialled attempt]) := by
    rw [Store.run_recorded_connect, tried]
    rfl
  by_cases connected : attempt = .connected
  · have begins : OnlyCommandsBehind [.dialled attempt] (after, [.dialled attempt]) :=
      ⟨[], rfl, nofun⟩
    obtain ⟨-, commands, passed, alone⟩ :=
      step_of_joined apart due recorded (OnlyCommandsBehind [.dialled attempt])
        (onlyCommandsBehind_answer store _) connected begins
    exact ⟨commands, passed, alone, fun missed => absurd connected missed⟩
  · obtain ⟨-, -, left⟩ := step_of_missed apart due recorded connected
    exact ⟨[], congrArg Prod.snd left, nofun, fun _ => rfl⟩

/-! ## Runs -/

/-- An operation of a cache that pauses touches neither the failure nor the store. -/
theorem step_of_pausing {event : Event} {since : Duration}
    (pausing : cache.pause? event.clocks.mono = some since) :
    (backend store).step (cache, state) event =
      ((cache.missedOutcome (.pausing since) event.operation).2, state) := by
  rw [step_eq_performed, performed_of_pausing pausing]

section Runs

variable (store) {before : SharedCache × σ}

theorem run_of_connected (connected : before.1.isConnected = true) (later : List Event) :
    ((backend store).run before later).1.isConnected = true := by
  induction later using List.reverseRecOn with
  | nil => exact connected
  | append_singleton later event ih =>
    rw [Backend.run_append_singleton]
    exact (step_of_connected (fun _ => True) (fun _ _ _ => trivial) ih trivial event).1

/-- As long as the pause lasts, neither the failure nor the store is touched. -/
theorem run_of_pausing {failure : Instant} {later : List Event}
    (apart : before.1.isConnected = false) (failed : before.1.lastFailure = some failure)
    (soon : ∀ event ∈ later, event.clocks.mono < failure + retryPause) :
    ∃ cache, (backend store).run before later = (cache, before.2) ∧
      cache.isConnected = false ∧ cache.lastFailure = some failure := by
  induction later using List.reverseRecOn with
  | nil => exact ⟨before.1, rfl, apart, failed⟩
  | append_singleton later event ih =>
    obtain ⟨cache, ran, apart', failed'⟩ := ih fun earlier mem => soon earlier (by simp [mem])
    have pausing := pause?_eq_some_of_lt apart' failed' (soon event (by simp))
    refine ⟨(cache.missedOutcome (.pausing (Instant.remaining event.clocks.mono failure))
      event.operation).2, ?_, ?_, ?_⟩
    · rw [Backend.run_append_singleton, ran, step_of_pausing pausing]
    · rw [isConnected_missedOutcome, apart']
    · rw [lastFailure_missedOutcome, failed']

end Runs

/-- Only a cache that is not connected and does not pause dials, and it dials once. -/
theorem connect_eq_of_dialled_mem {before : SharedCache × σ} {event : Event}
    (tried : .dialled attempt ∈ passing store before event) :
    before.1.isConnected = false ∧ before.1.pause? event.clocks.mono = none ∧
      ∃ after, (store.connect before.1.store.connectTimeout).run before.2 = (attempt, after) := by
  obtain ⟨cache, state⟩ := before
  have apart : cache.isConnected = false := by
    rw [← Bool.not_eq_true]
    intro connected
    cases passing_of_connected connected event _ tried
  have due : cache.pause? event.clocks.mono = none := by
    rw [Option.eq_none_iff_forall_ne_some]
    intro since pausing
    rw [passing_of_pausing pausing] at tried
    cases tried
  refine ⟨apart, due, ((store.connect cache.store.connectTimeout).run state).2, Prod.ext ?_ rfl⟩
  obtain ⟨commands, passed, alone, -⟩ := passing_of_due apart due (Prod.ext rfl rfl)
  rw [passed] at tried
  rcases List.mem_cons.1 tried with same | command
  · exact (Exchange.dialled.inj same).symm
  · cases alone _ command

/-- In the pause behind a failure an operation sends nothing, leaves the store and the failure as they
are, and returns what it does without a store. -/
structure Rests (store : Store σ) (state : SharedCache × σ) (failure : Instant) (event : Event) :
    Prop where
  silent : passing store state event = []
  storeKept : ((backend store).step state event).2 = state.2
  failureKept : ((backend store).step state event).1.lastFailure = some failure
  answer : (backend store).answer state event =
    .ok (state.1.missedOutcome (.pausing (Instant.remaining event.clocks.mono failure))
      event.operation).1

theorem rests_of_lt {failure : Instant} {event : Event} (apart : cache.isConnected = false)
    (failed : cache.lastFailure = some failure) (soon : event.clocks.mono < failure + retryPause) :
    Rests store (cache, state) failure event := by
  have pausing := pause?_eq_some_of_lt apart failed soon
  refine ⟨passing_of_pausing pausing, ?_, ?_, ?_⟩
  · rw [step_of_pausing pausing]
  · rw [step_of_pausing pausing, lastFailure_missedOutcome, failed]
  · rw [answer_eq_performed, performed_of_pausing pausing]

/-- An operation dials before all else, and only once. -/
def DialsFirst (store : Store σ) (state : SharedCache × σ) (event : Event) : Prop :=
  ∃ attempt commands, passing store state event = .dialled attempt :: commands ∧
    OnlyCommands commands

/-- Let an operation dial. If that connects the cache, no operation ever dials again, whatever commands
fail. If it does not, the operation sends nothing else, and the failure is that of the end of the attempt.
While operations come that are less than the pause behind it, each of them rests; the first one that
comes later dials again. -/
theorem dials_again_only_behind_pause (store : Store σ) (before : SharedCache × σ) (event : Event)
    (attempt : Attempt) (tried : .dialled attempt ∈ passing store before event)
    (later : List Event) (next : Event) :
    let after := (backend store).step before event
    let reached := (backend store).run after later
    (attempt = .connected →
      reached.1.isConnected = true ∧ OnlyCommands (passing store reached next)) ∧
    (attempt ≠ .connected →
      let failure := ending store event.clocks.mono before.2 after.2
      passing store before event = [.dialled attempt] ∧ after.1.lastFailure = some failure ∧
      ((∀ other ∈ later, other.clocks.mono < failure + retryPause) →
        reached.1.lastFailure = some failure ∧ reached.2 = after.2 ∧
        (next.clocks.mono < failure + retryPause → Rests store reached failure next) ∧
        (failure + retryPause ≤ next.clocks.mono → DialsFirst store reached next))) := by
  obtain ⟨apart, due, left, ran⟩ := connect_eq_of_dialled_mem tried
  refine ⟨?_, ?_⟩
  · intro connected
    have stands := step_of_joined apart due ran (fun _ => True) (fun _ _ _ => trivial) connected trivial
    have reached := run_of_connected store stands.1 later
    exact ⟨reached, passing_of_connected reached next⟩
  · intro missed
    obtain ⟨apart', failed, rfl⟩ := step_of_missed apart due ran missed
    obtain ⟨commands, passed, -, inVain⟩ := passing_of_due apart due ran
    refine ⟨?_, failed, ?_⟩
    · rw [← inVain missed]
      exact passed
    · intro soon
      obtain ⟨cache, run, apart'', failed'⟩ := run_of_pausing store apart' failed soon
      rw [run]
      refine ⟨failed', rfl, ?_, ?_⟩
      · exact rests_of_lt apart'' failed'
      · intro late
        obtain ⟨commands, passed, alone, -⟩ :=
          passing_of_due apart'' (pause?_eq_none_of_le failed' late) (Prod.ext rfl rfl)
        exact ⟨_, commands, passed, alone⟩

/-- A store that is reached at the second attempt, each of which takes a second, and that answers
nothing. -/
def reachedLate : Store Nat where
  connect _ := modifyGet fun attempts => (if attempts = 0 then .timedOut else .connected, attempts + 1)
  answer _ := return .error (.disconnected "reset")
  waited attempts := attempts * nanosPerSecond

/-- A lookup so many seconds after the start. -/
def lookup (seconds : Nat) : Event :=
  ⟨⟨0, (seconds * nanosPerSecond : Nat)⟩, .get "a"⟩

/-- The cache and the store behind the first attempt, which fails after a second, and a lookup in the
pause. -/
def awaiting : SharedCache × Nat :=
  (backend reachedLate).run ((backend reachedLate).step (writingCache, 0) (lookup 0)) [lookup 3]

/-- A lookup in the sixth second still pauses, one behind it connects, and none dials after that. -/
theorem dials_again_only_behind_pause_reachedLate :
    .dialled .timedOut ∈ passing reachedLate (writingCache, 0) (lookup 0) ∧
    passing reachedLate awaiting (lookup 5) = [] ∧
    DialsFirst reachedLate awaiting (lookup 6) ∧
    .dialled .connected ∈ passing reachedLate awaiting (lookup 6) ∧
    OnlyCommands (passing reachedLate
      ((backend reachedLate).run ((backend reachedLate).step awaiting (lookup 6)) [lookup 7])
      (lookup 20)) := by
  have first : .dialled .timedOut ∈ passing reachedLate (writingCache, 0) (lookup 0) := by
    have passed : passing reachedLate (writingCache, 0) (lookup 0) = [.dialled .timedOut] := rfl
    rw [passed]
    exact List.mem_singleton_self _
  have second : .dialled .connected ∈ passing reachedLate awaiting (lookup 6) := by
    have passed : passing reachedLate awaiting (lookup 6) = [.dialled .connected,
      .asked (.get (awaiting.1.storeKey "a")) (.error (.disconnected "reset"))] := rfl
    rw [passed]
    exact List.mem_cons_self
  have soon : ∀ other ∈ [lookup 3], other.clocks.mono <
      ending reachedLate (lookup 0).clocks.mono 0 1 + retryPause := by
    decide
  have failed : Attempt.timedOut ≠ .connected := nofun
  have paused := (dials_again_only_behind_pause _ _ _ _ first [lookup 3] (lookup 5)).2 failed
  have again := (dials_again_only_behind_pause _ _ _ _ first [lookup 3] (lookup 6)).2 failed
  have joined := (dials_again_only_behind_pause _ _ _ _ second [lookup 7] (lookup 20)).1 rfl
  exact ⟨first, ((paused.2.2 soon).2.2.1 (by decide)).silent, (again.2.2 soon).2.2.2 (by decide), second,
    joined.2⟩

end CompletionCache.SharedCache
