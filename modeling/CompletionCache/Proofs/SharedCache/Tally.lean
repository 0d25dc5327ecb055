import CompletionCache.Proofs.Backend.Tally
import CompletionCache.Proofs.SharedCache.RoundTrip

/-!
# What a shared cache counts

Over a store that is recorded, the record tells whether the store has taken a put
(`Exchange.isTakenPut`). Attempts count nothing, and all commands but a put leave the answer to that as it
is (`sustained_tallied`); a write that is tried comes through exactly if its put is taken
(`trySet_put`). Hence the cache counts what it returns and what the store has taken, whatever the store
does and whatever fails behind the put (`counting_recorded`), and so it does when nobody records it
(`exists_counters_step`).
-/

set_option autoImplicit false

namespace CompletionCache

/-- Whether an exchange is a put that the store has taken: its answer is a reply that is no error. -/
def Exchange.isTakenPut : Exchange → Bool
  | asked (.put _ _ _) (.ok (.error _ _)) => false
  | asked (.put _ _ _) (.ok _) => true
  | _ => false

theorem Exchange.isTakenPut_iff (key document : String) (ttl : UInt64)
    (answer : Except CommandFault Reply) :
    (asked (.put key document ttl) answer).isTakenPut = true ↔
      (answer >>= Reply.readDone) = .ok () := by
  cases answer with
  | error fault => exact iff_of_false nofun nofun
  | ok reply =>
    cases reply with
    | error code detail => exact iff_of_false nofun nofun
    | _ => exact iff_of_true rfl rfl

namespace SharedCache

variable {σ : Type}

/-- What the cache has counted. -/
def counters (cache : SharedCache) : Tally := ⟨cache.hits, cache.misses, cache.sets⟩

theorem counters_counted (cache : SharedCache) (hit : Option Entry) :
    (cache.counted hit).counters = cache.counters.looked hit.isSome := by
  unfold counted Tally.looked
  split <;> rfl

/-- What the cache beside a store has counted. -/
def besideStore {α : Type} (state : SharedCache × α) : Tally := state.1.counters

/-- Whether the store has taken a put, as far as its record goes. -/
def taken (state : SharedCache × σ × List Exchange) : Bool :=
  state.2.2.any Exchange.isTakenPut

/-- The cache has counted so much, and its store has taken a put or not. -/
def Tallied (tally : Tally) (put : Bool) (state : SharedCache × σ × List Exchange) : Prop :=
  state.1.counters = tally ∧ taken state = put

/-- A command that puts nothing. -/
def PutsNothing (command : Command) : Prop := ∀ key document ttl, command ≠ .put key document ttl

theorem isTakenPut_of_putsNothing {command : Command} (nothing : PutsNothing command)
    (answer : Except CommandFault Reply) : (Exchange.asked command answer).isTakenPut = false := by
  cases command with
  | put key document ttl => exact absurd rfl (nothing key document ttl)
  | _ => rfl

theorem run_orFault {α : Type} (outcome : Except CommandFault α) (state : SharedCache × σ) :
    (orFault outcome).run.run state = (outcome.mapError StoreFault.command, state) := by
  cases outcome <;> rfl

section Store

variable (store : Store σ)

/-- Without a put nothing is counted, and nothing more is taken. -/
theorem sustained_tallied (tally : Tally) (put : Bool) :
    Sustained store.recorded PutsNothing (Tallied tally put) := by
  apply Maintained.sustained
  constructor
  · exact fun _ _ _ _ holds => holds
  · intro timeout cache state holds
    refine ⟨holds.1, ?_⟩
    rw [← holds.2, taken, taken, Store.run_recorded_connect]
    simp [Exchange.isTakenPut]
  · intro command nothing cache state holds
    refine ⟨holds.1, ?_⟩
    rw [← holds.2, taken, taken, Store.run_recorded_answer]
    simp [isTakenPut_of_putsNothing nothing]

variable (clocks : Clocks) (key : String) (response : Response) (model : String) (tokens : UInt64)
  (state : SharedCache × σ × List Exchange)

/-- A put comes through exactly if the store takes it, and the record says so. -/
theorem send_put (document : String) (ttl : UInt64) :
    ∃ outcome after put, (send store.recorded (.put key document ttl) Reply.readDone).run.run state =
        (outcome, after) ∧
      (outcome = .ok () ↔ put = true) ∧ Tallied state.1.counters (taken state || put) after := by
  obtain ⟨cache, inner, record⟩ := state
  rw [send, run_bind_of_ok (run_onStore _ _), orFault_bind, run_orFault, Store.run_recorded_answer]
  refine ⟨_, _, (Exchange.asked (.put key document ttl)
    ((store.answer (.put key document ttl)).run inner).1).isTakenPut, rfl, ?_, rfl, ?_⟩
  · rw [Exchange.isTakenPut_iff]
    dsimp only
    cases ((store.answer (.put key document ttl)).run inner).1 >>= Reply.readDone with
    | error fault => simp [Except.mapError]
    | ok value => simp [Except.mapError]
  · simp [taken]

/-- A write that is tried comes through exactly if the store takes its put, and counts nothing yet. -/
theorem trySet_put :
    ∃ outcome after put,
      (trySet store.recorded clocks key response model tokens).run.run state = (outcome, after) ∧
      (outcome = .ok () ↔ put = true) ∧ Tallied state.1.counters (taken state || put) after := by
  have connected := (sustained_tallied store state.1.counters (taken state)).connect clocks.mono
    state ⟨rfl, rfl⟩
  rw [trySet, run_bind_of_ok (run_current _), ExceptT.run_bind, StateT.run_bind]
  generalize (connect store.recorded clocks.mono).run.run state = result at connected
  obtain ⟨outcome, after⟩ := result
  obtain ⟨⟨tallied, before⟩, -⟩ := connected
  cases outcome with
  | error fault => exact ⟨_, _, false, rfl, by simp, tallied, by rw [Bool.or_false, before]⟩
  | ok value =>
    rw [← tallied, ← before]
    exact send_put store _ after _ _

/-- A write counts whether its put was taken, also if the attempt to make room behind it fails. -/
theorem set_tallied :
    ∃ written,
      ((SharedCache.set store.recorded clocks key response model tokens).run state).2.1.counters =
        state.1.counters.wrote written ∧
      taken ((SharedCache.set store.recorded clocks key response model tokens).run state).2 =
        (taken state || written) := by
  obtain ⟨outcome, after, put, tried, came, tallied, put?⟩ :=
    trySet_put store clocks key response model tokens state
  rw [run_set, tried]
  obtain ⟨cache, inner⟩ := after
  refine ⟨put, ?_⟩
  cases outcome with
  | error fault =>
    have nothing : put = false := by
      rw [← Bool.not_eq_true, ← came]
      nofun
    subst nothing
    exact ⟨tallied, put?⟩
  | ok value =>
    obtain rfl := came.1 rfl
    -- The count is made before the capacity is looked at, and stays whatever comes of that.
    have noted : Tallied (state.1.counters.wrote true) (taken state || true)
        ({ cache with sets := cache.sets + 1 }, inner) :=
      ⟨congrArg (Tally.wrote · true) tallied, put?⟩
    exact (sustained_tallied store _ _).withinCapacity clocks noted (fun _ => nofun)
      (fun _ _ _ => nofun) (fun _ => nofun) cache.config.capacity?

/-- Whatever the store does, the cache counts what it returns and what the store has taken. -/
theorem counting_recorded : (backend store.recorded).Counting besideStore taken where
  get clocks key state := by
    obtain ⟨hit, cache, after, ran, ⟨tallied, put⟩, alive⟩ :=
      (sustained_tallied store state.1.counters (taken state)).get clocks ⟨rfl, rfl⟩
        (fun _ => nofun) key
    refine ⟨hit, (cache.counted hit, after), ?_, alive, ?_, put⟩
    · exact congrArg (fun ran => (Except.ok ran.1, ran.2)) ran
    · exact (counters_counted cache hit).trans (congrArg (Tally.looked · _) tallied)
  set clocks key response model tokens state := by
    obtain ⟨written, tallied, put⟩ := set_tallied store clocks key response model tokens state
    exact ⟨written, _, rfl, tallied, put⟩
  delete clocks key state :=
    ⟨_, _, rfl, ((sustained_tallied store state.1.counters (taken state)).delete clocks ⟨rfl, rfl⟩
      (fun _ => nofun) key).1⟩
  clear clocks state := ⟨_, rfl, congrArg (fun ran => ran.2.1.counters) (run_clear _ clocks state)⟩
  stats clocks state :=
    ⟨_, _, rfl, ((sustained_tallied store state.1.counters (taken state)).stats clocks ⟨rfl, rfl⟩
      fun _ _ _ => nofun).1⟩
  health clocks state :=
    ⟨_, _, rfl, ((sustained_tallied store state.1.counters (taken state)).health clocks ⟨rfl, rfl⟩
      nofun fun _ _ _ => nofun).1⟩

/-- Whatever the store does, and whether or not anybody records it, the tally behind an operation is told
by its answer and by whether a write was taken. -/
theorem exists_counters_step (state : SharedCache × σ) (event : Event) :
    ∃ written, ((backend store).step state event).1.counters =
      state.1.counters.behind event.operation ((backend store).answer state event) written := by
  have mirrors : Mirrors state.1.store ((backend store.recorded).perform event).run
      ((backend store).perform event).run (FailsOpen state.1.store.keyPrefix event) :=
    mirrors_perform event
  obtain ⟨result, cache, after, exchanges, ran, ranRecorded, -⟩ := mirrors state.1 state.2 [] rfl
  have fresh : taken (state.1, state.2, ([] : List Exchange)) = false := rfl
  have recorded := (counting_recorded store).step event fresh
  have told : (backend store.recorded).answer (state.1, state.2, []) event =
      (backend store).answer state event :=
    (congrArg Prod.fst ranRecorded).trans (congrArg Prod.fst ran).symm
  have left : (backend store.recorded).step (state.1, state.2, []) event =
      (cache, after, [] ++ exchanges) := congrArg Prod.snd ranRecorded
  have left' : (backend store).step state event = (cache, after) := congrArg Prod.snd ran
  rw [told, left] at recorded
  rw [left']
  exact ⟨_, recorded⟩

/-! ## Statistics -/

/-- No attempt counts anything. -/
theorem sustained_counters (tally : Tally) :
    Sustained store (fun _ => True) fun state => state.1.counters = tally :=
  sustained_of_bookkeeping store (fun cache => cache.counters = tally) fun _ _ _ same => same

/-- The statistics tell what the cache has counted: to count the entries of the store changes none of
it. -/
theorem counters_stats (state : SharedCache × σ) :
    ((stats store clocks).run state).1.hits = state.1.counters.hits ∧
      ((stats store clocks).run state).1.misses = state.1.counters.misses ∧
        ((stats store clocks).run state).1.sets = some state.1.counters.sets := by
  rw [← (sustained_counters store state.1.counters).stats clocks rfl fun _ _ _ => trivial]
  exact ⟨rfl, rfl, rfl⟩

end Store

end SharedCache

end CompletionCache
