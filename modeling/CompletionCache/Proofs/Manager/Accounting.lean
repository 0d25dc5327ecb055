import CompletionCache.Proofs.Manager.Erasure
import CompletionCache.Proofs.Manager.FailOpen
import CompletionCache.Proofs.SharedCache.InTime
import CompletionCache.Proofs.SharedCache.Tally

/-!
# The statistics count lookups and writes

A use of a manager looks something up if it is a lookup, or a call about an eligible request that looks it
up (`Use.looked?`). One use changes the tally by what it looked up and by whether the store took a put of
it, and a removal of everything sets the tally back (`tally_react`). Along a run the tally is then what the
uses since the last removal add up to (`tally_history`), for both kinds of cache and whatever the store does
(`stats_count_lookups_and_writes`).
-/

set_option autoImplicit false

namespace CompletionCache.Manager

variable {σ τ ε : Type}

/-! ## What a use counts -/

/-- Whether what was returned is something that was found. -/
def isFound {α : Type} : Result (Option α) → Bool
  | .ok (some _) => true
  | _ => false

/-- What a use has looked up, if it has: whether it was found. A call looks nothing up for a request that
is not eligible; one that may compute has found something unless it computed. -/
def Use.looked? (config : Config) : Use ε → Reaction ε → Option Bool
  | direct ⟨_, .get _⟩, .direct (.ok (.found (some _))) => some true
  | direct ⟨_, .get _⟩, _ => some false
  | managed (.look _ request), .managed (.found result) =>
    if config.admits request then some (isFound result) else none
  | managed (.ask _ request _), .managed (.outcome outcome) =>
    if config.admits request then some !outcome.computed else none
  | _, _ => none

/-- Whether a use may write. -/
def Use.isWrite : Use ε → Bool
  | direct ⟨_, .set _ _ _ _⟩ => true
  | managed (.keep _ _ _) => true
  | managed (.ask _ _ _) => true
  | _ => false

/-- Whether a use removes everything. -/
def Use.clears : Use ε → Bool
  | direct ⟨_, .clear⟩ => true
  | managed (.clear _) => true
  | _ => false

/-- The tally behind a use. -/
def Use.tallied (config : Config) (use : Use ε) (reaction : Reaction ε) (taken : Bool)
    (tally : Tally) : Tally :=
  if use.clears then .zero
  else (tally.lookedUp (use.looked? config reaction)).wrote (use.isWrite && taken)

/-! ## Calls -/

section Calls

variable {manager : Manager σ} {tally : σ → Tally} {taken : σ → Bool}
  (counting : manager.backend.Counting tally taken)

include counting

/-- A lookup by request counts what it returns, if the request is eligible. -/
theorem tally_getResponse (clocks : Clocks) (request : Request) (state : σ) :
    ∃ found after, (manager.getResponse clocks request).run.run state = (.ok found, after) ∧
      tally after = (tally state).lookedUp
        (if manager.config.admits request then some found.isSome else none) ∧
      taken after = taken state := by
  cases admitted : manager.config.admits request with
  | false => exact ⟨none, state, run_getResponse_of_not_admits admitted clocks state, rfl, rfl⟩
  | true =>
    obtain ⟨found, after, looked, alive, tallied, put⟩ :=
      counting.get clocks request.fingerprint.hash state
    refine ⟨found.map (·.response), after, ?_, ?_, put⟩
    · rw [getResponse, if_pos admitted, run_bind_of_ok looked]
      cases found with
      | none => rfl
      | some entry =>
        -- The backend returns nothing that has expired, so the manager returns it too.
        dsimp only
        rw [alive entry rfl]
        rfl
    · rw [tallied, Option.isSome_map]
      rfl

/-- A write by request counts whether it was taken. -/
theorem tally_cacheResponse (clocks : Clocks) (request : Request) (response : Response) (state : σ) :
    ∃ written after,
      (manager.cacheResponse clocks request response).run.run state = (.ok (), after) ∧
      tally after = (tally state).wrote written ∧ taken after = (taken state || written) := by
  cases admitted : manager.config.admits request with
  | false =>
    exact ⟨false, state, run_cacheResponse_of_not_admits admitted clocks response state, rfl,
      (Bool.or_false _).symm⟩
  | true =>
    rw [cacheResponse, if_pos admitted]
    exact counting.set clocks request.fingerprint.hash response request.model response.totalTokens state

/-- A call that may compute counts its lookup, and its write if there is one. -/
theorem tally_getOrCompute (clocks : Clocks) (request : Request) (wrap : Error → ε)
    (compute : Except ε Response) (state : σ) :
    ∃ outcome after written,
      (manager.getOrCompute clocks request wrap compute).run state = (outcome, after) ∧
      tally after = ((tally state).lookedUp
        (if manager.config.admits request then some !outcome.computed else none)).wrote written ∧
      taken after = (taken state || written) := by
  obtain ⟨found, looked, ran, tallied, put⟩ := tally_getResponse counting clocks request state
  unfold getOrCompute getOrComputeUntil
  rw [run_bind_of_eq ran]
  cases found with
  | some response => exact ⟨_, _, false, rfl, tallied, by rw [put, Bool.or_false]⟩
  | none =>
    cases compute with
    | error failure => exact ⟨_, _, false, rfl, tallied, by rw [put, Bool.or_false]⟩
    | ok response =>
      obtain ⟨written, after, wrote, tallied', put'⟩ :=
        tally_cacheResponse counting clocks request response looked
      dsimp only
      rw [run_bind_of_eq wrote]
      refine ⟨_, _, written, rfl, ?_, ?_⟩
      · rw [tallied', tallied]
        rfl
      · rw [put', put]

/-! ## Uses -/

/-- An operation of the backend counts what it looks up and what was taken. -/
theorem tally_direct (event : Event) {state : σ} (fresh : taken state = false) :
    tally (manager.backend.step state event) =
      (Use.direct event : Use ε).tallied manager.config
        (.direct (manager.backend.answer state event))
        (taken (manager.backend.step state event)) (tally state) := by
  rw [counting.step event fresh]
  obtain ⟨clocks, operation⟩ := event
  cases operation with
  | get key =>
    match manager.backend.answer state ⟨clocks, .get key⟩ with
    | .ok (.found (some entry)) => rfl
    | .ok (.found none) => rfl
    | .ok .done => rfl
    | .ok (.removed existed) => rfl
    | .ok (.stats stats) => rfl
    | .ok (.health report) => rfl
    | .error fault => rfl
  | set key response model tokens => rfl
  | delete key => rfl
  | clear => rfl
  | stats => rfl
  | health => rfl

/-- A call counts what it looks up and what was taken. -/
theorem tally_managed (wrap : Error → ε) (call : Call ε) {state : σ} (fresh : taken state = false) :
    tally ((manager.perform wrap call).run state).2 =
      (Use.managed call).tallied manager.config
        (.managed ((manager.perform wrap call).run state).1)
        (taken ((manager.perform wrap call).run state).2) (tally state) := by
  cases call with
  | ask clocks request compute =>
    obtain ⟨outcome, after, written, ran, tallied, put⟩ :=
      tally_getOrCompute counting clocks request wrap compute state
    rw [fresh, Bool.false_or] at put
    rw [perform, StateT.run_map, ran]
    show _ = Tally.wrote _ (true && taken after)
    rw [put]
    exact tallied
  | look clocks request =>
    obtain ⟨found, after, ran, tallied, -⟩ := tally_getResponse counting clocks request state
    rw [perform, StateT.run_map, ran]
    cases found <;> exact tallied
  | keep clocks request response =>
    obtain ⟨written, after, ran, tallied, put⟩ :=
      tally_cacheResponse counting clocks request response state
    rw [fresh, Bool.false_or] at put
    rw [perform, StateT.run_map, ran]
    show _ = Tally.wrote _ (true && taken after)
    rw [put]
    exact tallied
  | delete clocks key =>
    obtain ⟨existed, after, ran, tallied⟩ := counting.delete clocks key state
    rw [perform, StateT.run_map, ran]
    exact tallied
  | clear clocks =>
    obtain ⟨after, ran, tallied⟩ := counting.clear clocks state
    rw [perform, StateT.run_map, ran]
    exact tallied

/-- Every use counts what it looks up and what was taken of it. -/
theorem tally_react (wrap : Error → ε) (use : Use ε) {state : σ} (fresh : taken state = false) :
    tally ((manager.react wrap use).run state).2 =
      use.tallied manager.config ((manager.react wrap use).run state).1
        (taken ((manager.react wrap use).run state).2) (tally state) := by
  cases use with
  | direct event => exact tally_direct counting event fresh
  | managed call => exact tally_managed counting wrap call fresh

end Calls

/-! ## Logs -/

/-- A use with the reaction to it and with what passed between the cache and its store meanwhile. -/
abbrev Served (ε : Type) := Use ε × Reaction ε × List Exchange

/-- Whether a use has looked something up and found it. -/
def Served.isHit (config : Config) (served : Served ε) : Bool :=
  served.1.looked? config served.2.1 == some true

/-- Whether a use has looked something up and not found it. -/
def Served.isMiss (config : Config) (served : Served ε) : Bool :=
  served.1.looked? config served.2.1 == some false

/-- Whether a use has written something and the store has taken it. -/
def Served.isTakenWrite (served : Served ε) : Bool :=
  served.1.isWrite && served.2.2.any Exchange.isTakenPut

/-- What was served since everything was last removed, the latest first. -/
def sinceCleared (log : List (Served ε)) : List (Served ε) :=
  log.reverse.takeWhile fun served => !served.1.clears

/-- The hits, the misses and the taken writes since everything was last removed. -/
def tallyOf (config : Config) (log : List (Served ε)) : Tally where
  hits := (sinceCleared log).countP (Served.isHit config)
  misses := (sinceCleared log).countP (Served.isMiss config)
  sets := (sinceCleared log).countP Served.isTakenWrite

theorem tallyOf_append_singleton (config : Config) (log : List (Served ε)) (served : Served ε) :
    tallyOf config (log ++ [served]) =
      served.1.tallied config served.2.1 (served.2.2.any Exchange.isTakenPut) (tallyOf config log) := by
  obtain ⟨use, reaction, exchanges⟩ := served
  cases clears : use.clears with
  | true => simp [tallyOf, sinceCleared, Use.tallied, clears, Tally.zero]
  | false =>
    have since : sinceCleared (log ++ [(use, reaction, exchanges)]) =
        (use, reaction, exchanges) :: sinceCleared log := by
      simp [sinceCleared, clears]
    have kinds : ∀ looked : Option Bool,
        looked = none ∨ looked = some true ∨ looked = some false := by decide
    -- The three counts are told apart by what was looked up and by whether a put was taken.
    by_cases put : (use.isWrite && exchanges.any Exchange.isTakenPut) = true <;>
      rcases kinds (use.looked? config reaction) with looked | looked | looked <;>
        simp [tallyOf, since, Use.tallied, clears, Served.isHit, Served.isMiss, Served.isTakenWrite,
          looked, put, Tally.lookedUp, Tally.looked, Tally.wrote]

theorem length_sinceCleared_le (log : List (Served ε)) : (sinceCleared log).length ≤ log.length :=
  (List.takeWhile_sublist _).length_le.trans (List.length_reverse).le

/-- No use is a hit and a miss. -/
theorem hits_add_misses_le (config : Config) (log : List (Served ε)) :
    (tallyOf config log).hits + (tallyOf config log).misses ≤ log.length := by
  refine Nat.le_trans ?_ (length_sinceCleared_le log)
  rw [List.length_eq_countP_add_countP (Served.isHit config)]
  refine Nat.add_le_add_left (List.countP_mono_left ?_) _
  intro served _ miss
  simp_all [Served.isHit, Served.isMiss]

/-- When every use counts what it looks up and what is taken of it, the tally behind a run is what the
log adds up to. -/
theorem tally_history {config : Config} {act : Use ε → StateM τ (Reaction ε × List Exchange)}
    {tally : τ → Tally}
    (counts : ∀ use state, tally ((act use).run state).2 =
      use.tallied config ((act use).run state).1.1
        (((act use).run state).1.2.any Exchange.isTakenPut) (tally state))
    {state : τ} (start : tally state = .zero) (uses : List (Use ε)) :
    tally ((history act uses).run state).2 = tallyOf config ((history act uses).run state).1 := by
  induction uses using List.reverseRecOn with
  | nil => exact start
  | append_singleton uses use ih =>
    rw [run_history_append_singleton, tallyOf_append_singleton, ← ih]
    exact counts use _

/-! ## Statistics -/

/-- Statistics tell what a log adds up to since everything was last removed. No count is larger than the
number of uses. -/
structure Reports (config : Config) (log : List (Served ε)) (stats : Stats) : Prop where
  hits : stats.hits = (sinceCleared log).countP (Served.isHit config)
  misses : stats.misses = (sinceCleared log).countP (Served.isMiss config)
  sets : ∀ sets, stats.sets = some sets → sets = (sinceCleared log).countP Served.isTakenWrite
  lookups_le : stats.hits + stats.misses ≤ log.length
  sets_le : ∀ sets, stats.sets = some sets → sets ≤ log.length

theorem reports_of_tally {config : Config} {log : List (Served ε)} {stats : Stats}
    (hits : stats.hits = (tallyOf config log).hits)
    (misses : stats.misses = (tallyOf config log).misses)
    (sets : ∀ sets, stats.sets = some sets → sets = (tallyOf config log).sets) :
    Reports config log stats where
  hits := hits
  misses := misses
  sets := sets
  lookups_le := by
    rw [hits, misses]
    exact hits_add_misses_le config log
  sets_le count given := by
    rw [sets count given]
    exact Nat.le_trans List.countP_le_length (length_sinceCleared_le log)

/-- What a manager of a cache in process does when it is used; nothing passes meanwhile. -/
def useInProcess (config : Config) (wrap : Error → ε) (use : Use ε) :
    StateM LocalCache (Reaction ε × List Exchange) :=
  (·, []) <$> (inProcess config).react wrap use

theorem tally_useInProcess (config : Config) (wrap : Error → ε) (use : Use ε) (cache : LocalCache) :
    ((useInProcess config wrap use).run cache).2.counters =
      use.tallied config ((useInProcess config wrap use).run cache).1.1
        (((useInProcess config wrap use).run cache).1.2.any Exchange.isTakenPut) cache.counters :=
  let counting : (inProcess config).backend.Counting LocalCache.counters fun _ => false :=
    LocalCache.counting_backend
  tally_react counting wrap use rfl

theorem tally_observe (config : Config) (store : Store σ) (wrap : Error → ε) (use : Use ε)
    (state : SharedCache × σ) :
    SharedCache.besideStore ((observe config store wrap use).run state).2 =
      use.tallied config ((observe config store wrap use).run state).1.1
        (((observe config store wrap use).run state).1.2.any Exchange.isTakenPut)
        (SharedCache.besideStore state) :=
  let counting : (mk config (SharedCache.backend store.recorded)).backend.Counting
      SharedCache.besideStore SharedCache.taken := SharedCache.counting_recorded store
  tally_react counting wrap use rfl

/-- Nothing else happens when nobody observes. -/
theorem run_react_eq_observe (config : Config) (store : Store σ) (wrap : Error → ε) (use : Use ε)
    (state : SharedCache × σ) :
    ((mk config (SharedCache.backend store)).react wrap use).run state =
      (((observe config store wrap use).run state).1.1,
        ((observe config store wrap use).run state).2) := by
  obtain ⟨reaction, exchanges, cache', state', observed, reacted, -⟩ :=
    observe_failsOpen config store wrap use state.1 state.2
  rw [observed, reacted]

/-- Along every run, through the operations of a backend and through calls of a manager, the statistics
tell the lookups that found something, the lookups that did not and the writes that the store has taken,
since the last removal of everything. This holds for the cache in process, which does not count writes, and
for a shared cache whatever its store does, whether or not anybody observes what passes. -/
theorem stats_count_lookups_and_writes (config : Config) (wrap : Error → ε) (uses : List (Use ε)) :
    (∀ (settings : Config) (interval : Duration) (mono : Instant) (clocks : Clocks),
      ∃ log cache stats,
        (history (useInProcess config wrap) uses).run (LocalCache.fresh settings interval mono) =
          (log, cache) ∧
        log.map (·.1) = uses ∧
        (uses.mapM ((inProcess config).react wrap)).run (LocalCache.fresh settings interval mono) =
          (log.map (·.2.1), cache) ∧
        LocalCache.backend.answer cache ⟨clocks, .stats⟩ = .ok (.stats stats) ∧
        Reports config log stats ∧ stats.sets = none) ∧
    ∀ {σ : Type} (store : Store σ) (settings : Config) (address : StoreConfig) (cache : SharedCache)
      (state : σ) (clocks : Clocks), SharedCache.create settings address = .ok cache →
      ∃ log cache' state' stats,
        (history (observe config store wrap) uses).run (cache, state) = (log, (cache', state')) ∧
        log.map (·.1) = uses ∧
        (uses.mapM ((mk config (SharedCache.backend store)).react wrap)).run (cache, state) =
          (log.map (·.2.1), (cache', state')) ∧
        (SharedCache.backend store).answer (cache', state') ⟨clocks, .stats⟩ = .ok (.stats stats) ∧
        Reports config log stats ∧ stats.sets.isSome = true := by
  refine ⟨?_, ?_⟩
  · intro settings interval mono clocks
    have start : (LocalCache.fresh settings interval mono).counters = .zero := rfl
    have tallied := tally_history (tally_useInProcess config wrap) start uses
    refine ⟨_, _, _, rfl, map_fst_history _ _ _, run_mapM_eq_history _ _ _ fun _ _ => rfl, rfl,
      reports_of_tally ?_ ?_ nofun, rfl⟩
    · exact congrArg Tally.hits tallied
    · exact congrArg Tally.misses tallied
  · intro σ store settings address cache state clocks created
    have start : SharedCache.besideStore (cache, state) = .zero := by
      obtain rfl := SharedCache.create_eq_ok created
      rfl
    have tallied := tally_history (tally_observe config store wrap) start uses
    have unobserved := run_mapM_eq_history _ uses (cache, state)
      (run_react_eq_observe config store wrap)
    have named := map_fst_history (observe config store wrap) uses (cache, state)
    generalize (history (observe config store wrap) uses).run (cache, state) = ran at *
    obtain ⟨log, after⟩ := ran
    -- Behind the run, the statistics tell the tally of the state that it has left.
    obtain ⟨hits, misses, sets⟩ := SharedCache.counters_stats store clocks after
    have answered : (SharedCache.backend store).answer after ⟨clocks, .stats⟩ =
        .ok (.stats ((SharedCache.stats store clocks).run after).1) := rfl
    refine ⟨log, after.1, after.2, _, rfl, named, unobserved, answered,
      reports_of_tally ?_ ?_ ?_, ?_⟩
    · exact hits.trans (congrArg Tally.hits tallied)
    · exact misses.trans (congrArg Tally.misses tallied)
    · intro count given
      rw [sets] at given
      cases given
      exact congrArg Tally.sets tallied
    · rw [sets]
      rfl

/-- A store that takes every put, finds nothing and refuses everything else. -/
def grudgingStore : Store Unit where
  connect _ := return .connected
  answer
    | .put _ _ _ => return .ok (.text "OK")
    | .get _ => return .ok .nil
    | _ => return .error (.refused "ERR" none)
  waited _ := 0

/-- Two writes with a removal between them that the store refuses, and lookups of which one is about a
request that is not eligible. -/
def grudgedUses : List (Use String) :=
  [.direct ⟨⟨0, 0⟩, .set "a" (.ofText "first") "m" 3⟩, .direct ⟨⟨1, 1⟩, .get "a"⟩,
    .direct ⟨⟨2, 2⟩, .clear⟩, .managed (.look ⟨3, 3⟩ (Request.chatRequest true)),
    .direct ⟨⟨4, 4⟩, .set "b" (.ofText "second") "m" 4⟩, .direct ⟨⟨5, 5⟩, .get "b"⟩]

/-- The settings under which there is room for one entry. -/
def narrowConfig : Config := { Config.default with maxSize := some 1 }

/-- Behind the removal that was refused, one lookup and one write are counted, although the store has
refused to make room. -/
theorem stats_count_grudged :
    ∃ cache, SharedCache.create narrowConfig (.ofUrl "redis://localhost") = .ok cache ∧
    ∃ log cache' state' stats,
      (history (observe .default grudgingStore fun _ => "cache") grudgedUses).run (cache, ()) =
        (log, (cache', state')) ∧
      (SharedCache.backend grudgingStore).answer (cache', state') ⟨⟨6, 6⟩, .stats⟩ =
        .ok (.stats stats) ∧
      Reports .default log stats ∧ stats.hits = 0 ∧ stats.misses = 1 ∧ stats.sets = some 1 := by
  refine ⟨_, rfl, ?_⟩
  obtain ⟨log, cache', state', stats, ran, -, -, answered, reports, -⟩ :=
    (stats_count_lookups_and_writes .default (fun _ => "cache") grudgedUses).2 grudgingStore
      narrowConfig (.ofUrl "redis://localhost") _ () ⟨6, 6⟩ rfl
  refine ⟨log, cache', state', stats, ran, answered, reports, ?_⟩
  have left : (cache', state') =
      ((⟨narrowConfig, .ofUrl "redis://localhost", true, none, 0, 1, 1⟩ : SharedCache), ()) :=
    (congrArg Prod.snd ran).symm.trans rfl
  cases left
  cases answered
  exact ⟨rfl, rfl, rfl⟩

end CompletionCache.Manager
