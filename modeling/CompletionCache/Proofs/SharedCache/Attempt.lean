import CompletionCache.SharedCache

/-!
# What attempts keep and return

An attempt ensures a condition when it keeps an invariant of the cache and its store, whatever fails
on the way, and what it returns, if it returns at all, satisfies the condition. An invariant is
maintained when it does not look at the bookkeeping of the cache and the store keeps it while it
connects and answers the commands that are allowed. Connecting then keeps it as a whole
(`ensures_connect`), and an invariant of which that is so is sustained. Every attempt that sends only
allowed commands keeps it (`ensures_send`, `ensures_scan`, `ensures_deleteKeys`), and so do the operations
that are made of attempts (`Sustained.get`, `Sustained.withinCapacity` and their siblings).
-/

set_option autoImplicit false

namespace CompletionCache.SharedCache

variable {σ : Type} {store : Store σ} {Inv : SharedCache × σ → Prop} {α β : Type}

/-- Whatever becomes of an attempt, it keeps the invariant; what it returns satisfies a condition. -/
def Ensures (Inv : SharedCache × σ → Prop) (attempt : Attempting σ α) (Returns : α → Prop) : Prop :=
  ∀ state, Inv state → Inv (attempt.run.run state).2 ∧
    ∀ value, (attempt.run.run state).1 = .ok value → Returns value

/-! ## Rules -/

theorem ensures_pure {value : α} {Returns : α → Prop} (returned : Returns value) :
    Ensures Inv (pure value) Returns := by
  intro state holds
  refine ⟨holds, ?_⟩
  intro same ok
  cases ok
  exact returned

theorem ensures_throw (fault : StoreFault) {Returns : α → Prop} :
    Ensures Inv (throw fault) Returns := by
  intro state holds
  refine ⟨holds, ?_⟩
  intro value ok
  cases ok

theorem Ensures.bind {attempt : Attempting σ α} {next : α → Attempting σ β} {Between : α → Prop}
    {Returns : β → Prop} (first : Ensures Inv attempt Between)
    (rest : ∀ value, Between value → Ensures Inv (next value) Returns) :
    Ensures Inv (attempt >>= next) Returns := by
  intro state holds
  obtain ⟨kept, returns⟩ := first state holds
  rw [ExceptT.run_bind, StateT.run_bind]
  generalize attempt.run.run state = result at kept returns
  obtain ⟨outcome, after⟩ := result
  cases outcome with
  | error fault =>
    -- A fault ends the attempt in the state that its first part has left.
    refine ⟨kept, ?_⟩
    intro value ok
    cases ok
  | ok value => exact rest value (returns value rfl) after kept

theorem ensures_mapM {attempt : α → Attempting σ β}
    (each : ∀ value, Ensures Inv (attempt value) fun _ => True) (values : List α) :
    Ensures Inv (values.mapM attempt) fun _ => True := by
  induction values with
  | nil => exact ensures_pure trivial
  | cons value values ih =>
    rw [List.mapM_cons]
    exact (each value).bind fun _ _ => ih.bind fun _ _ => ensures_pure trivial

/-! ## Elementary attempts -/

theorem ensures_current : Ensures Inv current fun cache => ∃ state : σ, Inv (cache, state) := by
  rintro ⟨cache, state⟩ holds
  refine ⟨holds, ?_⟩
  intro same ok
  cases ok
  exact ⟨state, holds⟩

theorem ensures_waited : Ensures Inv (waited store) fun _ => True :=
  fun _ holds => ⟨holds, fun _ _ => trivial⟩

theorem ensures_change {f : SharedCache → SharedCache}
    (keeps : ∀ cache (state : σ), Inv (cache, state) → Inv (f cache, state)) :
    Ensures Inv (change f) fun _ => True :=
  fun _ holds => ⟨keeps _ _ holds, fun _ _ => trivial⟩

theorem ensures_onStore {action : StateM σ α} {Returns : α → Prop}
    (keeps : ∀ cache state, Inv (cache, state) →
      Inv (cache, (action.run state).2) ∧ Returns (action.run state).1) :
    Ensures Inv (onStore action) Returns := by
  intro state holds
  obtain ⟨kept, returned⟩ := keeps _ _ holds
  refine ⟨kept, ?_⟩
  intro value ok
  cases ok
  exact returned

theorem ensures_orFault {outcome : Except CommandFault α} {Returns : α → Prop}
    (returns : ∀ value, outcome = .ok value → Returns value) :
    Ensures Inv (orFault outcome) Returns := by
  cases outcome with
  | error fault => exact ensures_throw _
  | ok value => exact ensures_pure (returns value rfl)

/-! ## Invariants that the store keeps -/

/-- An invariant that does not look at the bookkeeping of the cache, and that the store keeps while
it connects and answers what is allowed. -/
structure Maintained (store : Store σ) (Allowed : Command → Prop)
    (Inv : SharedCache × σ → Prop) : Prop where
  bookkeeping : ∀ (isConnected : Bool) (lastFailure : Option Instant) {cache : SharedCache}
    {state : σ}, Inv (cache, state) →
      Inv ({ cache with isConnected := isConnected, lastFailure := lastFailure }, state)
  connect : ∀ (timeout : Duration) {cache : SharedCache} {state : σ}, Inv (cache, state) →
    Inv (cache, ((store.connect timeout).run state).2)
  answer : ∀ {command : Command}, Allowed command → ∀ {cache : SharedCache} {state : σ},
    Inv (cache, state) → Inv (cache, ((store.answer command).run state).2)

section Maintained

variable {Allowed : Command → Prop} (maintained : Maintained store Allowed Inv)

include maintained

/-- However an attempt to connect ends, it keeps the invariant. -/
theorem ensures_dial (now : Instant) (cache : SharedCache) :
    Ensures Inv (dial store now cache) fun _ => True := by
  have dialled : Ensures Inv (onStore (store.connect cache.store.connectTimeout)) fun _ => True :=
    ensures_onStore fun _ _ holds => ⟨maintained.connect _ holds, trivial⟩
  have missed : ∀ (failure : Instant) (fault : StoreFault), Ensures Inv (do
      change fun cache => { cache with lastFailure := some failure }
      throw fault : Attempting σ Unit) fun _ => True := by
    intro failure fault
    have noted : Ensures Inv (change fun cache => { cache with lastFailure := some failure })
        fun _ => True := ensures_change fun cache _ => maintained.bookkeeping cache.isConnected _
    exact noted.bind fun _ _ => ensures_throw fault
  refine ensures_waited.bind fun before _ => dialled.bind fun attempt _ => ?_
  cases attempt with
  | connected => exact ensures_change fun _ _ => maintained.bookkeeping _ _
  | failed fault => exact ensures_waited.bind fun after _ => missed _ _
  | timedOut => exact ensures_waited.bind fun after _ => missed _ _

theorem ensures_connect (now : Instant) : Ensures Inv (connect store now) fun _ => True := by
  rw [connect]
  -- Connected already, or pausing behind a failure, or else the store is tried.
  refine ensures_current.bind fun cache _ => ?_
  split
  · exact ensures_pure trivial
  · split
    · dsimp only
      split
      · exact ensures_throw _
      · exact ensures_dial maintained now cache
    · exact ensures_dial maintained now cache

end Maintained

/-- An invariant that connecting keeps, however it ends, and that the store keeps while it answers what
is allowed. -/
structure Sustained (store : Store σ) (Allowed : Command → Prop)
    (Inv : SharedCache × σ → Prop) : Prop where
  connect : ∀ now, Ensures Inv (SharedCache.connect store now) fun _ => True
  answer : ∀ {command : Command}, Allowed command → ∀ {cache : SharedCache} {state : σ},
    Inv (cache, state) → Inv (cache, ((store.answer command).run state).2)

theorem Maintained.sustained {Allowed : Command → Prop} (maintained : Maintained store Allowed Inv) :
    Sustained store Allowed Inv :=
  ⟨ensures_connect maintained, maintained.answer⟩

/-- What depends neither on the store nor on the bookkeeping of the cache is kept, whatever the store
does. -/
theorem sustained_of_bookkeeping (store : Store σ) (P : SharedCache → Prop)
    (bookkeeping : ∀ (isConnected : Bool) (lastFailure : Option Instant) {cache : SharedCache},
      P cache → P { cache with isConnected := isConnected, lastFailure := lastFailure }) :
    Sustained store (fun _ => True) fun state => P state.1 :=
  Maintained.sustained ⟨fun _ _ _ _ holds => bookkeeping _ _ holds, fun _ _ _ holds => holds,
    fun _ _ _ holds => holds⟩

section Sustained

variable {Allowed : Command → Prop} (sustained : Sustained store Allowed Inv)

include sustained

/-- A command that is allowed keeps the invariant, whether it succeeds or not. -/
theorem ensures_send {command : Command} (allowed : Allowed command)
    {read : Reply → Except CommandFault α} {Returns : α → Prop}
    (returns : ∀ cache state reply value, Inv (cache, state) →
      ((store.answer command).run state).1 = .ok reply → read reply = .ok value → Returns value) :
    Ensures Inv (send store command read) Returns := by
  rw [send]
  have answered : Ensures Inv (onStore (store.answer command)) fun outcome =>
      ∀ reply value, outcome = .ok reply → read reply = .ok value → Returns value :=
    ensures_onStore fun cache state holds =>
      ⟨sustained.answer allowed holds, fun reply value => returns cache state reply value holds⟩
  refine answered.bind fun outcome reads => ?_
  have replied : Ensures Inv (orFault outcome) fun reply => outcome = .ok reply :=
    ensures_orFault fun _ ok => ok
  exact replied.bind fun reply ok => ensures_orFault fun value => reads reply value ok

theorem ensures_sendAll {commands : List Command} (allowed : ∀ command ∈ commands, Allowed command)
    (read : Reply → Except CommandFault α) :
    Ensures Inv (sendAll store commands read) fun _ => True := by
  -- All commands are answered before the first reply is read.
  have answered : ∀ cache state, Inv (cache, state) →
      Inv (cache, ((commands.mapM store.answer).run state).2) := by
    induction commands with
    | nil => exact fun _ _ holds => holds
    | cons command commands ih =>
      intro cache state holds
      rw [List.mapM_cons, StateT.run_bind]
      exact ih (fun other mem => allowed other (List.mem_cons_of_mem _ mem)) cache _
        (sustained.answer (allowed command List.mem_cons_self) holds)
  rw [sendAll]
  refine (ensures_onStore fun cache state holds => ⟨answered cache state holds, trivial⟩).bind
    fun replies (_ : True) => ?_
  refine ensures_mapM (fun reply => ?_) replies
  exact (ensures_orFault fun _ _ => trivial).bind fun _ (_ : True) =>
    ensures_orFault fun _ _ => trivial

/-! ## Lookups, scans and deletions -/

omit sustained in
/-- To read a document touches neither the cache nor the store. -/
theorem ensures_readEntry (text : String) : Ensures Inv (readEntry text) fun _ => True := by
  rw [readEntry]
  cases Entry.ofText? text with
  | none => exact ensures_throw _
  | some entry => exact ensures_pure trivial

theorem ensures_tryGet (reads : ∀ key, Allowed (.get key)) (now : Instant) (key : String) :
    Ensures Inv (tryGet store now key) fun _ => True := by
  rw [tryGet]
  refine (sustained.connect now).bind fun _ _ => ensures_current.bind fun cache _ => ?_
  refine (ensures_send sustained (reads _) fun _ _ _ _ _ _ _ => trivial).bind
    fun found (_ : True) => ?_
  cases found with
  | none => exact ensures_pure trivial
  | some text => exact (ensures_readEntry text).bind fun _ _ => ensures_pure trivial

theorem ensures_scan (allowed : ∀ cursor pattern count, Allowed (.scan cursor pattern count)) :
    Ensures Inv (scan store) fun _ => True := by
  have pages : ∀ pattern fuel cursor found,
      Ensures Inv (scanFrom store pattern fuel cursor found) fun _ => True := by
    -- Whatever pages the store returns, each is one more command that is allowed.
    intro pattern fuel
    induction fuel with
    | zero => exact fun _ _ => ensures_throw _
    | succ fuel ih =>
      intro cursor found
      rw [scanFrom]
      refine (ensures_send sustained (allowed cursor pattern scanCount)
        fun _ _ _ _ _ _ _ => trivial).bind fun page (_ : True) => ?_
      obtain ⟨next, keys⟩ := page
      dsimp only
      split
      · exact ensures_pure trivial
      · exact ih _ _
  exact ensures_current.bind fun _ _ => pages _ _ _ _

theorem ensures_tryCount (scans : ∀ cursor pattern count, Allowed (.scan cursor pattern count))
    (now : Instant) : Ensures Inv (tryCount store now) fun _ => True := by
  rw [tryCount]
  refine (sustained.connect now).bind fun _ _ => ?_
  exact (ensures_scan sustained scans).bind fun keys _ => ensures_pure trivial

theorem ensures_tryHealth (pings : Allowed .ping)
    (scans : ∀ cursor pattern count, Allowed (.scan cursor pattern count)) (now : Instant) :
    Ensures Inv (tryHealth store now) fun _ => True := by
  rw [tryHealth]
  refine ensures_waited.bind fun before _ => ?_
  refine (sustained.connect now).bind fun _ _ => ?_
  refine (ensures_send sustained pings fun _ _ _ _ _ _ _ => trivial).bind
    fun answer (_ : True) => ?_
  refine ensures_waited.bind fun after _ => ?_
  exact (ensures_scan sustained scans).bind fun keys _ => ensures_pure trivial

theorem ensures_deleteKeys (allowed : ∀ keys, Allowed (.delete keys)) (keys : List String) :
    Ensures Inv (deleteKeys store keys) fun _ => True := by
  have chunks : ∀ fuel keys, Ensures Inv (deleteFrom store fuel keys) fun _ => True := by
    intro fuel
    induction fuel with
    | zero => exact fun _ => ensures_pure trivial
    | succ fuel ih =>
      intro keys
      rw [deleteFrom]
      split
      · exact ensures_pure trivial
      · exact (ensures_send sustained (allowed _) fun _ _ _ _ _ _ _ => trivial).bind
          fun _ (_ : True) => ih _
  exact chunks _ _

theorem ensures_tryMakeRoom (reads : ∀ key, Allowed (.timeToLive key))
    (scans : ∀ cursor pattern count, Allowed (.scan cursor pattern count))
    (deletes : ∀ keys, Allowed (.delete keys)) (now : Instant) (maxSize : Nat) :
    Ensures Inv (tryMakeRoom store now maxSize) fun _ => True := by
  rw [tryMakeRoom]
  refine (sustained.connect now).bind fun _ _ => ?_
  refine (ensures_scan sustained scans).bind fun keys _ => ?_
  split
  · exact ensures_pure trivial
  · refine (ensures_sendAll sustained ?_ Reply.readInteger).bind fun ttls _ =>
      ensures_deleteKeys sustained deletes _
    intro command mem
    obtain ⟨key, -, rfl⟩ := List.mem_map.1 mem
    exact reads key

theorem ensures_trySet (puts : ∀ key document ttl, Allowed (.put key document ttl))
    (clocks : Clocks) (key : String) (response : Response) (model : String) (tokens : UInt64) :
    Ensures Inv (trySet store clocks key response model tokens) fun _ => True := by
  rw [trySet]
  refine ensures_current.bind fun cache _ => (sustained.connect clocks.mono).bind fun _ _ => ?_
  exact ensures_send sustained (puts _ _ _) fun _ _ _ _ _ _ _ => trivial

theorem ensures_tryClear (scans : ∀ cursor pattern count, Allowed (.scan cursor pattern count))
    (deletes : ∀ keys, Allowed (.delete keys)) (now : Instant) :
    Ensures Inv (tryClear store now) fun _ => True := by
  rw [tryClear]
  refine (sustained.connect now).bind fun _ _ => ?_
  exact (ensures_scan sustained scans).bind fun keys _ => ensures_deleteKeys sustained deletes keys

theorem ensures_tryDelete (deletes : ∀ keys, Allowed (.delete keys)) (now : Instant)
    (key : String) : Ensures Inv (tryDelete store now key) fun _ => True := by
  rw [tryDelete]
  refine (sustained.connect now).bind fun _ _ => ensures_current.bind fun cache _ => ?_
  exact ensures_send sustained (deletes _) fun _ _ _ _ _ _ _ => trivial

end Sustained

/-! ## Operations -/

section Runs

variable (store) (clocks : Clocks) (state : SharedCache × σ)

/-- What a lookup returns of what it has fetched: a fault and an expired entry are misses. -/
def live (clocks : Clocks) : Except StoreFault (Option Entry) → Option Entry
  | .ok (some entry) => if entry.isExpiredAt clocks.wall then none else some entry
  | _ => none

/-- The cache with a lookup counted. -/
def counted (cache : SharedCache) (hit : Option Entry) : SharedCache :=
  if hit.isSome then { cache with hits := cache.hits + 1 }
  else { cache with misses := cache.misses + 1 }

@[simp]
theorem store_counted (cache : SharedCache) (hit : Option Entry) :
    (cache.counted hit).store = cache.store := by
  unfold counted
  split <;> rfl

@[simp]
theorem isConnected_counted (cache : SharedCache) (hit : Option Entry) :
    (cache.counted hit).isConnected = cache.isConnected := by
  unfold counted
  split <;> rfl

/-- What a lookup returns was fetched. -/
theorem eq_ok_of_live_eq_some {clocks : Clocks} {fetched : Except StoreFault (Option Entry)}
    {entry : Entry} (found : live clocks fetched = some entry) : fetched = .ok (some entry) := by
  unfold live at found
  split at found
  · split at found
    · cases found
    · cases found
      rfl
  · cases found

theorem run_get (key : String) :
    (get store clocks key).run state =
      (live clocks ((tryGet store clocks.mono key).run.run state).1,
        (((tryGet store clocks.mono key).run.run state).2.1.counted
          (live clocks ((tryGet store clocks.mono key).run.run state).1),
        ((tryGet store clocks.mono key).run.run state).2.2)) := by
  rw [get, StateT.run_bind]
  generalize (tryGet store clocks.mono key).run.run state = fetched
  obtain ⟨outcome, after⟩ := fetched
  rfl

theorem run_set (key : String) (response : Response) (model : String) (tokens : UInt64) :
    (set store clocks key response model tokens).run state =
      ((), match (trySet store clocks key response model tokens).run.run state with
        | (.error _, after) => after
        | (.ok (), cache, after) =>
          match cache.config.capacity? with
          | none => ({ cache with sets := cache.sets + 1 }, after)
          | some maxSize => ((tryMakeRoom store clocks.mono maxSize).run.run
              ({ cache with sets := cache.sets + 1 }, after)).2) := by
  rw [set, StateT.run_bind]
  generalize (trySet store clocks key response model tokens).run.run state = tried
  obtain ⟨outcome, cache, after⟩ := tried
  cases outcome with
  | error fault => rfl
  | ok value =>
    cases value
    -- The capacity is looked up behind the count, which leaves the config alone.
    obtain ⟨⟨ttl, maxSize, threshold, enabled, streaming, excluded⟩, address, isConnected,
      lastFailure, hits, misses, sets⟩ := cache
    cases maxSize with
    | none => rfl
    | some size => rfl

theorem run_delete (key : String) :
    (delete store clocks key).run state =
      (match ((tryDelete store clocks.mono key).run.run state).1 with
        | .ok count => count != 0
        | .error _ => false,
      ((tryDelete store clocks.mono key).run.run state).2) := by
  rw [delete, StateT.run_bind]
  generalize (tryDelete store clocks.mono key).run.run state = tried
  obtain ⟨outcome, after⟩ := tried
  cases outcome <;> rfl

theorem run_clear :
    (clear store clocks).run state =
      ((), ({ ((tryClear store clocks.mono).run.run state).2.1 with
          hits := 0, misses := 0, sets := 0 },
        ((tryClear store clocks.mono).run.run state).2.2)) := by
  rw [clear, StateT.run_bind]
  generalize (tryClear store clocks.mono).run.run state = tried
  obtain ⟨outcome, after⟩ := tried
  rfl

end Runs

/-! ## What operations keep -/

section Operations

variable {Allowed : Command → Prop} (sustained : Sustained store Allowed Inv) (clocks : Clocks)
  {state : SharedCache × σ} (holds : Inv state)

include sustained holds

/-- A lookup keeps the invariant until it is counted, and it finds nothing that has expired. -/
theorem Sustained.get (reads : ∀ key, Allowed (.get key)) (key : String) :
    ∃ hit cache after, (SharedCache.get store clocks key).run state = (hit, cache.counted hit, after) ∧
      Inv (cache, after) ∧ ∀ entry, hit = some entry → entry.isExpiredAt clocks.wall = false := by
  refine ⟨_, _, _, run_get store clocks state key,
    (ensures_tryGet sustained reads clocks.mono key state holds).1, ?_⟩
  intro entry found
  unfold live at found
  split at found
  · split at found
    · cases found
    · next alive =>
      cases found
      simpa using alive
  · cases found

/-- Behind a write that has come through, its count and the attempt to make room keep the invariant. -/
theorem Sustained.withinCapacity (reads : ∀ key, Allowed (.timeToLive key))
    (scans : ∀ cursor pattern count, Allowed (.scan cursor pattern count))
    (deletes : ∀ keys, Allowed (.delete keys)) (capacity : Option Nat) :
    Inv (match capacity with
      | none => state
      | some maxSize => ((tryMakeRoom store clocks.mono maxSize).run.run state).2) := by
  cases capacity with
  | none => exact holds
  | some maxSize =>
    exact (ensures_tryMakeRoom sustained reads scans deletes clocks.mono maxSize state holds).1

/-- A write keeps the invariant if what it tries does and the count of writes is none of the invariant's
business. -/
theorem Sustained.set {key : String} {response : Response} {model : String} {tokens : UInt64}
    (tried : Ensures Inv (trySet store clocks key response model tokens) fun _ => True)
    (counted : ∀ {cache : SharedCache} {after : σ}, Inv (cache, after) →
      Inv ({ cache with sets := cache.sets + 1 }, after))
    (reads : ∀ key, Allowed (.timeToLive key))
    (scans : ∀ cursor pattern count, Allowed (.scan cursor pattern count))
    (deletes : ∀ keys, Allowed (.delete keys)) :
    Inv ((SharedCache.set store clocks key response model tokens).run state).2 := by
  have kept := (tried state holds).1
  rw [run_set]
  generalize (trySet store clocks key response model tokens).run.run state = result at kept
  obtain ⟨outcome, cache, after⟩ := result
  cases outcome with
  | error fault => exact kept
  | ok value =>
    -- The write is counted, and then room is made as far as the store lets it.
    exact sustained.withinCapacity clocks (counted kept) reads scans deletes cache.config.capacity?

theorem Sustained.delete (deletes : ∀ keys, Allowed (.delete keys)) (key : String) :
    Inv ((SharedCache.delete store clocks key).run state).2 := by
  rw [run_delete]
  exact (ensures_tryDelete sustained deletes clocks.mono key state holds).1

/-- A removal of everything keeps the invariant until the counts are forgotten. -/
theorem Sustained.clear (scans : ∀ cursor pattern count, Allowed (.scan cursor pattern count))
    (deletes : ∀ keys, Allowed (.delete keys)) :
    ∃ cache after, (SharedCache.clear store clocks).run state =
        ((), ({ cache with hits := 0, misses := 0, sets := 0 }, after)) ∧ Inv (cache, after) :=
  ⟨_, _, run_clear store clocks state,
    (ensures_tryClear sustained scans deletes clocks.mono state holds).1⟩

theorem Sustained.stats (scans : ∀ cursor pattern count, Allowed (.scan cursor pattern count)) :
    Inv ((SharedCache.stats store clocks).run state).2 :=
  (ensures_tryCount sustained scans clocks.mono state holds).1

theorem Sustained.health (pings : Allowed .ping)
    (scans : ∀ cursor pattern count, Allowed (.scan cursor pattern count)) :
    Inv ((SharedCache.health store clocks).run state).2 :=
  (ensures_tryHealth sustained pings scans clocks.mono state holds).1

end Operations

end CompletionCache.SharedCache
