import CompletionCache.Proofs.Json.Record
import CompletionCache.Proofs.SharedCache.Attempt
import CompletionCache.Proofs.Store.Exchange

/-!
# A record changes nothing

An action over the recorded store mirrors the same action over the store when both return the same
and leave the same cache and store, and the record has only grown; what was added to it, and what is
returned, satisfy a condition (`Mirrors`). What an attempt is made of mirrors itself, so the record
may be reasoned about in its place: connections, single commands (`mirrors_send`), many at once,
scans and deletions.
-/

set_option autoImplicit false

namespace CompletionCache.SharedCache

variable {σ : Type} {store : Store σ} {address : StoreConfig} {α β ε : Type}

/-- An action over the recorded store does what the plain one does, keeps the address of the cache
and adds to the record; what it returns and adds satisfies a condition. -/
def Mirrors (address : StoreConfig) (recorded : StateM (SharedCache × σ × List Exchange) α)
    (plain : StateM (SharedCache × σ) α) (Post : α → List Exchange → Prop) : Prop :=
  ∀ cache state record, cache.store = address → ∃ value cache' state' exchanges,
    plain.run (cache, state) = (value, cache', state') ∧
      recorded.run (cache, state, record) = (value, cache', state', record ++ exchanges) ∧
      cache'.store = address ∧ Post value exchanges

/-! ## Rules -/

theorem mirrors_pure {value : α} {Post : α → List Exchange → Prop} (post : Post value []) :
    Mirrors (σ := σ) address (pure value) (pure value) Post := by
  intro cache state record kept
  refine ⟨value, cache, state, [], rfl, ?_, kept, post⟩
  rw [List.append_nil]
  rfl

theorem Mirrors.bind {recorded : StateM (SharedCache × σ × List Exchange) α}
    {plain : StateM (SharedCache × σ) α} {next : α → StateM (SharedCache × σ × List Exchange) β}
    {nextPlain : α → StateM (SharedCache × σ) β} {Mid : α → List Exchange → Prop}
    {Post : β → List Exchange → Prop} (first : Mirrors address recorded plain Mid)
    (rest : ∀ value exchanges, Mid value exchanges →
      Mirrors address (next value) (nextPlain value) fun last others =>
        Post last (exchanges ++ others)) :
    Mirrors address (recorded >>= next) (plain >>= nextPlain) Post := by
  intro cache state record kept
  obtain ⟨value, cache', state', exchanges, ran, ranRecorded, kept', mid⟩ :=
    first cache state record kept
  obtain ⟨last, cache'', state'', others, ran', ranRecorded', kept'', post⟩ :=
    rest value exchanges mid cache' state' (record ++ exchanges) kept'
  -- What the second part adds to the record stands behind what the first one added.
  refine ⟨last, cache'', state'', exchanges ++ others, ?_, ?_, kept'', post⟩
  · rw [StateT.run_bind, ran]
    exact ran'
  · rw [StateT.run_bind, ranRecorded, ← List.append_assoc]
    exact ranRecorded'

theorem Mirrors.imp {recorded : StateM (SharedCache × σ × List Exchange) α}
    {plain : StateM (SharedCache × σ) α} {Mid Post : α → List Exchange → Prop}
    (mirrors : Mirrors address recorded plain Mid)
    (weaker : ∀ value exchanges, Mid value exchanges → Post value exchanges) :
    Mirrors address recorded plain Post := by
  intro cache state record kept
  obtain ⟨value, cache', state', exchanges, ran, ranRecorded, kept', mid⟩ :=
    mirrors cache state record kept
  exact ⟨value, cache', state', exchanges, ran, ranRecorded, kept', weaker value exchanges mid⟩

/-- An action that may fail goes on behind its first part, or ends with its fault. -/
theorem Mirrors.bindExcept {recorded : ExceptT ε (StateM (SharedCache × σ × List Exchange)) α}
    {plain : ExceptT ε (StateM (SharedCache × σ)) α}
    {next : α → ExceptT ε (StateM (SharedCache × σ × List Exchange)) β}
    {nextPlain : α → ExceptT ε (StateM (SharedCache × σ)) β}
    {Mid : Except ε α → List Exchange → Prop} {Post : Except ε β → List Exchange → Prop}
    (first : Mirrors address recorded.run plain.run Mid)
    (fails : ∀ fault exchanges, Mid (.error fault) exchanges → Post (.error fault) exchanges)
    (rest : ∀ value exchanges, Mid (.ok value) exchanges →
      Mirrors address (next value).run (nextPlain value).run fun last others =>
        Post last (exchanges ++ others)) :
    Mirrors address (recorded >>= next).run (plain >>= nextPlain).run Post := by
  rw [ExceptT.run_bind, ExceptT.run_bind]
  -- Both actions have the same outcome so far, so both stop here or both go on.
  refine first.bind fun outcome exchanges mid => ?_
  cases outcome with
  | error fault =>
    apply mirrors_pure
    rw [List.append_nil]
    exact fails fault exchanges mid
  | ok value => exact rest value exchanges mid

theorem Mirrors.map {recorded : StateM (SharedCache × σ × List Exchange) α}
    {plain : StateM (SharedCache × σ) α} {f : α → β} {Post : β → List Exchange → Prop}
    (mirrors : Mirrors address recorded plain fun value exchanges => Post (f value) exchanges) :
    Mirrors address (f <$> recorded) (f <$> plain) Post := by
  intro cache state record kept
  obtain ⟨value, cache', state', exchanges, ran, ranRecorded, kept', post⟩ :=
    mirrors cache state record kept
  refine ⟨f value, cache', state', exchanges, ?_, ?_, kept', post⟩
  · rw [StateT.run_map, ran]
    rfl
  · rw [StateT.run_map, ranRecorded]
    rfl

/-! ## Actions that pass only what is allowed -/

/-- Whatever is returned, all exchanges are allowed. -/
def Within (allowed : Exchange → Prop) (_ : α) (exchanges : List Exchange) : Prop :=
  ∀ exchange ∈ exchanges, allowed exchange

section Within

variable {allowed : Exchange → Prop}

theorem within_nil (value : α) : Within allowed value [] := nofun

theorem Within.append {value : α} {last last' : β} {exchanges others : List Exchange}
    (first : Within allowed value exchanges) (rest : Within allowed last others) :
    Within allowed last' (exchanges ++ others) :=
  fun exchange mem => (List.mem_append.1 mem).elim (first exchange) (rest exchange)

theorem Mirrors.bindWithin {recorded : StateM (SharedCache × σ × List Exchange) α}
    {plain : StateM (SharedCache × σ) α} {next : α → StateM (SharedCache × σ × List Exchange) β}
    {nextPlain : α → StateM (SharedCache × σ) β}
    (first : Mirrors address recorded plain (Within allowed))
    (rest : ∀ value, Mirrors address (next value) (nextPlain value) (Within allowed)) :
    Mirrors address (recorded >>= next) (plain >>= nextPlain) (Within allowed) :=
  first.bind fun value _ before => (rest value).imp fun _ _ behind => before.append behind

theorem Mirrors.bindExceptWithin {recorded : ExceptT ε (StateM (SharedCache × σ × List Exchange)) α}
    {plain : ExceptT ε (StateM (SharedCache × σ)) α}
    {next : α → ExceptT ε (StateM (SharedCache × σ × List Exchange)) β}
    {nextPlain : α → ExceptT ε (StateM (SharedCache × σ)) β}
    (first : Mirrors address recorded.run plain.run (Within allowed))
    (rest : ∀ value, Mirrors address (next value).run (nextPlain value).run (Within allowed)) :
    Mirrors address (recorded >>= next).run (plain >>= nextPlain).run (Within allowed) :=
  first.bindExcept (fun _ _ before => before) fun value _ before =>
    (rest value).imp fun _ _ behind => before.append behind

end Within

/-! ## Elementary actions -/

theorem mirrors_throw (fault : StoreFault) {Post : Except StoreFault α → List Exchange → Prop}
    (post : Post (.error fault) []) :
    Mirrors (σ := σ) address (throw fault : Attempting _ α).run (throw fault : Attempting _ α).run
      Post :=
  mirrors_pure post

theorem mirrors_orFault (outcome : Except CommandFault α)
    {Post : Except StoreFault α → List Exchange → Prop}
    (returns : ∀ value, outcome = .ok value → Post (.ok value) [])
    (fails : ∀ fault, outcome = .error fault → Post (.error (.command fault)) []) :
    Mirrors (σ := σ) address (orFault outcome).run (orFault outcome).run Post := by
  cases outcome with
  | error fault => exact mirrors_pure (fails fault rfl)
  | ok value => exact mirrors_pure (returns value rfl)

theorem mirrors_modify {f : SharedCache → SharedCache}
    (keeps : ∀ cache, (f cache).store = cache.store) {Post : Unit → List Exchange → Prop}
    (post : Post () []) :
    Mirrors (σ := σ) address (modify fun (cache, state) => (f cache, state))
      (modify fun (cache, state) => (f cache, state)) Post := by
  intro cache state record kept
  refine ⟨(), f cache, state, [], rfl, ?_, (keeps cache).trans kept, post⟩
  rw [List.append_nil]
  rfl

/-- The cache that is looked at has the address. -/
theorem mirrors_current :
    Mirrors (σ := σ) address current.run current.run fun result exchanges =>
      ∃ cache, result = .ok cache ∧ cache.store = address ∧ exchanges = [] := by
  intro cache state record kept
  refine ⟨.ok cache, cache, state, [], rfl, ?_, kept, cache, rfl, kept, rfl⟩
  rw [List.append_nil]
  rfl

/-- A command is one more exchange, with the answer that is returned. -/
theorem mirrors_answer (command : Command) :
    Mirrors address (onStore (store.recorded.answer command)).run
      (onStore (store.answer command)).run fun result exchanges =>
        ∃ answer, result = .ok answer ∧ exchanges = [.asked command answer] := by
  intro cache state record kept
  exact ⟨_, cache, _, [.asked command ((store.answer command).run state).1], rfl, rfl, kept,
    _, rfl, rfl⟩

/-! ## Connections -/

section Dials

variable {allowed : Exchange → Prop}

theorem mirrors_change {f : SharedCache → SharedCache}
    (keeps : ∀ cache, (f cache).store = cache.store) :
    Mirrors (σ := σ) address (change f).run (change f).run (Within allowed) := by
  intro cache state record kept
  refine ⟨.ok (), f cache, state, [], rfl, ?_, (keeps cache).trans kept, within_nil _⟩
  rw [List.append_nil]
  rfl

theorem mirrors_look : Mirrors (σ := σ) address current.run current.run (Within allowed) := by
  refine mirrors_current.imp ?_
  rintro _ _ ⟨cache, rfl, -, rfl⟩
  exact within_nil _

theorem mirrors_waited :
    Mirrors address (waited store.recorded).run (waited store).run (Within allowed) := by
  intro cache state record kept
  refine ⟨.ok (store.waited state), cache, state, [], rfl, ?_, kept, within_nil _⟩
  rw [List.append_nil]
  rfl

variable (dials : ∀ attempt, allowed (.dialled attempt))

include dials

/-- An attempt to connect is one more exchange. -/
theorem mirrors_connectStore (timeout : Duration) :
    Mirrors address (onStore (store.recorded.connect timeout)).run
      (onStore (store.connect timeout)).run (Within allowed) := by
  intro cache state record kept
  refine ⟨_, cache, _, [.dialled ((store.connect timeout).run state).1], rfl, rfl, kept, ?_⟩
  intro exchange mem
  rw [List.mem_singleton.1 mem]
  exact dials _

theorem mirrors_dial (now : Instant) (cache : SharedCache) :
    Mirrors address (dial store.recorded now cache).run (dial store now cache).run
      (Within allowed) := by
  refine mirrors_waited.bindExceptWithin fun before => ?_
  refine (mirrors_connectStore dials cache.store.connectTimeout).bindExceptWithin fun attempt => ?_
  -- The cache notes what comes of the attempt, and a failure is passed on.
  cases attempt with
  | connected =>
    apply mirrors_change
    exact fun _ => rfl
  | failed fault =>
    refine mirrors_waited.bindExceptWithin fun after => ?_
    apply Mirrors.bindExceptWithin
    · apply mirrors_change
      exact fun _ => rfl
    · exact fun _ => mirrors_throw _ (within_nil _)
  | timedOut =>
    refine mirrors_waited.bindExceptWithin fun after => ?_
    apply Mirrors.bindExceptWithin
    · apply mirrors_change
      exact fun _ => rfl
    · exact fun _ => mirrors_throw _ (within_nil _)

theorem mirrors_connect (now : Instant) :
    Mirrors address (connect store.recorded now).run (connect store now).run (Within allowed) := by
  rw [connect, connect]
  -- Connected already, or pausing behind a failure, or else the store is tried.
  refine mirrors_look.bindExceptWithin fun cache => ?_
  split
  · exact mirrors_pure (within_nil _)
  · split
    · dsimp only
      split
      · exact mirrors_throw _ (within_nil _)
      · exact mirrors_dial dials now cache
    · exact mirrors_dial dials now cache

end Dials

/-! ## Commands -/

/-- What is returned is what is read from the answer to a command. -/
def Answered (command : Command) (read : Reply → Except CommandFault α)
    (result : Except StoreFault α) (exchanges : List Exchange) : Prop :=
  ∀ value, result = .ok value ↔
    ∃ reply, .asked command (.ok reply) ∈ exchanges ∧ read reply = .ok value

/-- An exchange that connects is about no command. -/
theorem asked_mem_append {dials others : List Exchange}
    (dialled : ∀ exchange ∈ dials, exchange.isDial = true) (command : Command)
    (answer : Except CommandFault Reply) :
    .asked command answer ∈ dials ++ others ↔ .asked command answer ∈ others := by
  rw [List.mem_append, or_iff_right]
  intro mem
  cases dialled _ mem

theorem Answered.behind {command : Command} {read : Reply → Except CommandFault α}
    {result : Except StoreFault α} {dials others : List Exchange}
    (answered : Answered command read result others)
    (dialled : ∀ exchange ∈ dials, exchange.isDial = true) :
    Answered command read result (dials ++ others) := by
  intro value
  rw [answered value]
  simp only [asked_mem_append dialled]

theorem answered_nil (command : Command) (read : Reply → Except CommandFault α)
    (fault : StoreFault) : Answered command read (.error fault) [] := by
  intro value
  simp

theorem orFault_bind (outcome : Except CommandFault Reply) (read : Reply → Except CommandFault α) :
    (do orFault (read (← orFault outcome)) : Attempting σ α) = orFault (outcome >>= read) := by
  cases outcome <;> rfl

theorem mirrors_send (command : Command) (read : Reply → Except CommandFault α) :
    Mirrors address (send store.recorded command read).run (send store command read).run
      fun result exchanges => (∃ answer, exchanges = [.asked command answer]) ∧
        Answered command read result exchanges := by
  rw [send, send]
  refine (mirrors_answer command).bindExcept ?_ ?_
  · rintro _ _ ⟨answer, ok, -⟩
    cases ok
  rintro answer _ ⟨_, ok, rfl⟩
  obtain rfl := Except.ok.inj ok
  rw [orFault_bind, orFault_bind]
  -- The answer is a fault, or it is read as a fault, or its value is returned.
  have answered : ∀ value, answer >>= read = .ok value ↔
      ∃ reply, Exchange.asked command (.ok reply) ∈ [Exchange.asked command answer] ∧
        read reply = .ok value := by
    intro value
    rw [Json.bind_eq_ok]
    simp [eq_comm]
  apply mirrors_orFault
  · intro value ok
    refine ⟨⟨answer, rfl⟩, fun other => ?_⟩
    rw [List.append_nil, ← answered, ok, Except.ok.injEq, Except.ok.injEq]
  · intro fault failed
    refine ⟨⟨answer, rfl⟩, fun other => ?_⟩
    rw [List.append_nil, ← answered, failed]
    simp

section Commands

variable {allowed : Exchange → Prop}

theorem mirrors_sendWithin {command : Command} (asks : ∀ answer, allowed (.asked command answer))
    (read : Reply → Except CommandFault α) :
    Mirrors address (send store.recorded command read).run (send store command read).run
      (Within allowed) := by
  refine (mirrors_send command read).imp ?_
  rintro _ _ ⟨⟨answer, rfl⟩, -⟩ exchange mem
  rw [List.mem_singleton.1 mem]
  exact asks answer

theorem mirrors_mapM {recorded : α → Attempting (σ × List Exchange) β} {plain : α → Attempting σ β}
    {values : List α}
    (each : ∀ value ∈ values,
      Mirrors address (recorded value).run (plain value).run (Within allowed)) :
    Mirrors address (values.mapM recorded).run (values.mapM plain).run (Within allowed) := by
  induction values with
  | nil => exact mirrors_pure (within_nil _)
  | cons value values ih =>
    rw [List.mapM_cons, List.mapM_cons]
    refine (each value List.mem_cons_self).bindExceptWithin fun result => ?_
    refine (ih fun other mem => each other (List.mem_cons_of_mem _ mem)).bindExceptWithin
      fun results => ?_
    exact mirrors_pure (within_nil _)

theorem onStore_mapM (action : α → StateM σ β) (values : List α) :
    (onStore (values.mapM action) : Attempting σ (List β)) =
      values.mapM fun value => onStore (action value) := by
  induction values with
  | nil => rfl
  | cons value values ih =>
    rw [List.mapM_cons, List.mapM_cons, ← ih]
    rfl

theorem mirrors_sendAll {commands : List Command}
    (asks : ∀ command ∈ commands, ∀ answer, allowed (.asked command answer))
    (read : Reply → Except CommandFault α) :
    Mirrors address (sendAll store.recorded commands read).run (sendAll store commands read).run
      (Within allowed) := by
  rw [sendAll, sendAll, onStore_mapM, onStore_mapM]
  -- All commands are answered before the first reply is read.
  refine (mirrors_mapM fun command mem => ?_).bindExceptWithin fun replies => ?_
  · refine (mirrors_answer command).imp ?_
    rintro _ _ ⟨answer, -, rfl⟩ exchange same
    rw [List.mem_singleton.1 same]
    exact asks command mem answer
  · refine mirrors_mapM fun reply _ => ?_
    rw [orFault_bind, orFault_bind]
    exact mirrors_orFault _ (fun _ _ => within_nil _) fun _ _ => within_nil _

/-! ## Scans and deletions -/

theorem mirrors_scan
    (asks : ∀ cursor pattern count answer, allowed (.asked (.scan cursor pattern count) answer)) :
    Mirrors address (scan store.recorded).run (scan store).run (Within allowed) := by
  have pages : ∀ pattern fuel cursor found,
      Mirrors address (scanFrom store.recorded pattern fuel cursor found).run
        (scanFrom store pattern fuel cursor found).run (Within allowed) := by
    -- Whatever pages the store returns, each is one more command.
    intro pattern fuel
    induction fuel with
    | zero => exact fun _ _ => mirrors_throw _ (within_nil _)
    | succ fuel ih =>
      intro cursor found
      rw [scanFrom, scanFrom]
      refine (mirrors_sendWithin (asks cursor pattern scanCount) _).bindExceptWithin fun page => ?_
      obtain ⟨next, keys⟩ := page
      dsimp only
      split
      · exact mirrors_pure (within_nil _)
      · exact ih _ _
  exact mirrors_look.bindExceptWithin fun _ => pages _ _ _ _

theorem mirrors_deleteKeys (asks : ∀ keys answer, allowed (.asked (.delete keys) answer))
    (keys : List String) :
    Mirrors address (deleteKeys store.recorded keys).run (deleteKeys store keys).run
      (Within allowed) := by
  have chunks : ∀ fuel keys, Mirrors address (deleteFrom store.recorded fuel keys).run
      (deleteFrom store fuel keys).run (Within allowed) := by
    intro fuel
    induction fuel with
    | zero => exact fun _ => mirrors_pure (within_nil _)
    | succ fuel ih =>
      intro keys
      rw [deleteFrom, deleteFrom]
      split
      · exact mirrors_pure (within_nil _)
      · exact (mirrors_sendWithin (asks _) _).bindExceptWithin fun _ => ih _
  exact chunks _ _

end Commands

end CompletionCache.SharedCache
