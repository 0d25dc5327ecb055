import CompletionCache.Backend.Basic
import Mathlib.Data.List.Induction

/-!
# Runs of a cache

A run is a list of operations, each at readings of the two clocks, and `Backend.run` is the state
that a run leaves. The write that stands under a key after a run, `standing?`, is decided by the
operations alone, without any cache: it is the last write of the key, unless the key or all keys
were removed behind it (`standing?_eq_some_iff`). Lookups, and operations on other keys, decide
nothing about it (`standing?_filter`).
-/

set_option autoImplicit false

namespace CompletionCache

/-- An operation of a cache. -/
inductive Operation where
  | get (key : String)
  | set (key : String) (response : Response) (model : String) (tokens : UInt64)
  | delete (key : String)
  | clear
  | stats
  | health

/-- An operation at the readings of the clocks. -/
structure Event where
  clocks : Clocks
  operation : Operation

/-- What an operation returns. -/
inductive Answer where
  | found (entry : Option Entry)
  | done
  | removed (existed : Bool)
  | stats (stats : Stats)
  | health (report : HealthReport)

namespace Backend

variable {σ : Type}

/-- The operation of an event on a cache. -/
def perform (backend : Backend σ) (event : Event) : Action σ Answer :=
  match event.operation with
  | .get key => .found <$> backend.get event.clocks key
  | .set key response model tokens =>
    (fun _ => .done) <$> backend.set event.clocks key response model tokens
  | .delete key => .removed <$> backend.delete event.clocks key
  | .clear => (fun _ => .done) <$> backend.clear event.clocks
  | .stats => .stats <$> backend.stats event.clocks
  | .health => .health <$> (backend.health event.clocks : Action σ HealthReport)

/-- What is returned to an event. -/
def answer (backend : Backend σ) (state : σ) (event : Event) : Result Answer :=
  ((backend.perform event).run state).1

/-- The state after an event. -/
def step (backend : Backend σ) (state : σ) (event : Event) : σ :=
  ((backend.perform event).run state).2

/-- The state after a run. -/
def run (backend : Backend σ) (state : σ) (events : List Event) : σ :=
  events.foldl backend.step state

@[simp]
theorem run_nil (backend : Backend σ) (state : σ) : backend.run state [] = state := rfl

@[simp]
theorem run_append_singleton (backend : Backend σ) (state : σ) (events : List Event)
    (event : Event) :
    backend.run state (events ++ [event]) = backend.step (backend.run state events) event := by
  simp [run]

/-- What is returned is changed by a map, and what is left is not. -/
theorem run_map {α β : Type} (f : α → β) (action : Action σ α) (state : σ) :
    (f <$> action).run.run state = ((action.run.run state).1.map f, (action.run.run state).2) := by
  rw [ExceptT.run_map, StateT.run_map]
  rfl

section Steps

variable (backend : Backend σ) (state : σ) (clocks : Clocks) (key : String)

theorem step_get :
    backend.step state ⟨clocks, .get key⟩ = ((backend.get clocks key).run.run state).2 :=
  congrArg Prod.snd (run_map Answer.found (backend.get clocks key) state)

theorem answer_get :
    backend.answer state ⟨clocks, .get key⟩ =
      ((backend.get clocks key).run.run state).1.map .found :=
  congrArg Prod.fst (run_map Answer.found (backend.get clocks key) state)

theorem step_set (response : Response) (model : String) (tokens : UInt64) :
    backend.step state ⟨clocks, .set key response model tokens⟩ =
      ((backend.set clocks key response model tokens).run.run state).2 :=
  congrArg Prod.snd
    (run_map (fun _ => Answer.done) (backend.set clocks key response model tokens) state)

theorem step_delete :
    backend.step state ⟨clocks, .delete key⟩ = ((backend.delete clocks key).run.run state).2 :=
  congrArg Prod.snd (run_map Answer.removed (backend.delete clocks key) state)

theorem step_clear :
    backend.step state ⟨clocks, .clear⟩ = ((backend.clear clocks).run.run state).2 :=
  congrArg Prod.snd (run_map (fun _ => Answer.done) (backend.clear clocks) state)

theorem step_stats :
    backend.step state ⟨clocks, .stats⟩ = ((backend.stats clocks).run.run state).2 :=
  congrArg Prod.snd (run_map Answer.stats (backend.stats clocks) state)

theorem step_health :
    backend.step state ⟨clocks, .health⟩ = ((backend.health clocks).run state).2 :=
  congrArg Prod.snd (run_map Answer.health (liftM (backend.health clocks)) state)

end Steps

end Backend

/-- Whether the wall clock of a run never goes back. -/
def InOrder (events : List Event) : Prop :=
  events.Pairwise fun earlier later => earlier.clocks.wall ≤ later.clocks.wall

instance (events : List Event) : Decidable (InOrder events) :=
  inferInstanceAs (Decidable (events.Pairwise _))

theorem InOrder.of_append_singleton {events : List Event} {event : Event}
    (inOrder : InOrder (events ++ [event])) :
    InOrder events ∧ ∀ earlier ∈ events, earlier.clocks.wall ≤ event.clocks.wall := by
  obtain ⟨before, -, across⟩ := List.pairwise_append.1 inOrder
  exact ⟨before, fun earlier member => across earlier member event (by simp)⟩

/-! ## The write that stands -/

/-- What a write was given, and when. -/
structure Write where
  time : Instant
  response : Response
  model : String
  tokens : UInt64

/-- The entry of a write under a key whose clock holds the end of its lifetime. -/
def Write.entry (write : Write) (key : String) (ttl : Duration) : Entry :=
  ⟨key, write.response, write.time, write.time + ttl, write.model, write.tokens⟩

/-- Whether an operation decides what is kept under a key: it writes or removes this key, or it
removes all keys. -/
def Operation.decides (key : String) : Operation → Bool
  | set other _ _ _ => other == key
  | delete other => other == key
  | clear => true
  | get _ => false
  | stats => false
  | health => false

/-- A write stands under a key after a run if it is the last operation that decides the key. -/
def Stands (events : List Event) (key : String) (write : Write) : Prop :=
  ∃ earlier mono later, events = earlier ++
      ⟨⟨write.time, mono⟩, .set key write.response write.model write.tokens⟩ :: later ∧
    ∀ event ∈ later, event.operation.decides key = false

/-- The write that stands under a key behind an event, when `before` stood in front of it. -/
def standingAfter (key : String) (before : Option Write) (event : Event) : Option Write :=
  match event.operation with
  | .set other response model tokens =>
    if other = key then some ⟨event.clocks.wall, response, model, tokens⟩ else before
  | .delete other => if other = key then none else before
  | .clear => none
  | .get _ => before
  | .stats => before
  | .health => before

/-- The write that stands under a key after a run, if there is one. -/
def standing? (key : String) (events : List Event) : Option Write :=
  events.foldl (standingAfter key) none

@[simp]
theorem standing?_append_singleton (key : String) (events : List Event) (event : Event) :
    standing? key (events ++ [event]) = standingAfter key (standing? key events) event := by
  simp [standing?]

/-- An event that does not decide a key leaves the write under it. -/
theorem standingAfter_of_not_decides {key : String} {event : Event}
    (passive : event.operation.decides key = false) (before : Option Write) :
    standingAfter key before event = before := by
  obtain ⟨clocks, operation⟩ := event
  cases operation with
  | set other response model tokens =>
    have differs : other ≠ key := by simpa [Operation.decides] using passive
    simp [standingAfter, differs]
  | delete other =>
    have differs : other ≠ key := by simpa [Operation.decides] using passive
    simp [standingAfter, differs]
  | clear => simp [Operation.decides] at passive
  | get other => rfl
  | stats => rfl
  | health => rfl

/-- Only the operations that decide a key matter for the write that stands under it. -/
theorem standing?_filter (key : String) (events : List Event) :
    standing? key (events.filter fun event => event.operation.decides key) =
      standing? key events := by
  induction events using List.reverseRecOn with
  | nil => rfl
  | append_singleton events event ih =>
    rw [List.filter_append, standing?_append_singleton]
    cases decided : event.operation.decides key with
    | true =>
      have kept : ([event].filter fun event => event.operation.decides key) = [event] := by
        simp [decided]
      rw [kept, standing?_append_singleton, ih]
    | false =>
      have dropped : ([event].filter fun event => event.operation.decides key) = [] := by
        simp [decided]
      rw [dropped, List.append_nil, ih, standingAfter_of_not_decides decided]

theorem Stands.append_singleton {events : List Event} {key : String} {write : Write}
    (stands : Stands events key write) {event : Event}
    (passive : event.operation.decides key = false) : Stands (events ++ [event]) key write := by
  obtain ⟨earlier, mono, later, rfl, undisturbed⟩ := stands
  refine ⟨earlier, mono, later ++ [event], by simp, ?_⟩
  intro other member
  rcases List.mem_append.1 member with member | member
  · exact undisturbed other member
  · rw [List.mem_singleton.1 member]
    exact passive

/-- `standing?` gives the write that stands. -/
theorem standing?_eq_some_iff (key : String) (events : List Event) (write : Write) :
    standing? key events = some write ↔ Stands events key write := by
  constructor
  · intro found
    -- From the end of the run: its last event decides the key, or the write stood before it.
    induction events using List.reverseRecOn with
    | nil => simp [standing?] at found
    | append_singleton events event ih =>
      rw [standing?_append_singleton] at found
      cases decided : event.operation.decides key with
      | false =>
        rw [standingAfter_of_not_decides decided] at found
        exact (ih found).append_singleton decided
      | true =>
        obtain ⟨clocks, operation⟩ := event
        cases operation with
        | set other response model tokens =>
          have same : other = key := by simpa [Operation.decides] using decided
          subst same
          simp only [standingAfter, if_true, Option.some.injEq] at found
          subst found
          exact ⟨events, clocks.mono, [], rfl, by simp⟩
        | delete other =>
          have same : other = key := by simpa [Operation.decides] using decided
          simp [standingAfter, same] at found
        | clear => simp [standingAfter] at found
        | get other => simp [Operation.decides] at decided
        | stats => simp [Operation.decides] at decided
        | health => simp [Operation.decides] at decided
  · rintro ⟨earlier, mono, later, rfl, undisturbed⟩
    -- Behind the write there are only events that leave it, one after another.
    induction later using List.reverseRecOn with
    | nil => simp [standingAfter]
    | append_singleton later event ih =>
      have passive := undisturbed event (by simp)
      have before := ih fun other member => undisturbed other (by simp [member])
      rw [← List.cons_append, ← List.append_assoc, standing?_append_singleton, before,
        standingAfter_of_not_decides passive]

end CompletionCache
