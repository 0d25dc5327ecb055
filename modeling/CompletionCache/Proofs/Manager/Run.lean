import CompletionCache.Manager
import CompletionCache.Proofs.Backend.Faithful

/-!
# Runs of a manager

A run is a list of calls, each at readings of the two clocks. A lookup and a write may also be
called on their own: a computation that takes its time is a `look` and a later `keep`, with other
calls between them. Over a backend that is faithful to a function of requests, every call is answered
as it would be without a cache (`forall₂_run`).
-/

set_option autoImplicit false

namespace CompletionCache.Manager

variable {σ ε : Type}

/-- A call to a manager. The outcome of the computation that a call may run is given with it. -/
inductive Call (ε : Type) where
  | ask (clocks : Clocks) (request : Request) (compute : Except ε Response)
  | look (clocks : Clocks) (request : Request)
  | keep (clocks : Clocks) (request : Request) (response : Response)
  | delete (clocks : Clocks) (key : String)
  | clear (clocks : Clocks)

/-- What a call returns. -/
inductive Answer (ε : Type) where
  | outcome (outcome : Outcome ε)
  | found (found : Result (Option Response))
  | kept (result : Result Unit)
  | removed (existed : Result Bool)
  | cleared (result : Result Unit)

/-- What a manager does on a call. -/
def perform (manager : Manager σ) (wrap : Error → ε) : Call ε → StateM σ (Answer ε)
  | .ask clocks request compute => .outcome <$> manager.getOrCompute clocks request wrap compute
  | .look clocks request => .found <$> (manager.getResponse clocks request).run
  | .keep clocks request response => .kept <$> (manager.cacheResponse clocks request response).run
  | .delete clocks key => .removed <$> (manager.backend.delete clocks key).run
  | .clear clocks => .cleared <$> (manager.backend.clear clocks).run

/-- The answers to the calls of a run. -/
def run (manager : Manager σ) (wrap : Error → ε) (calls : List (Call ε)) :
    StateM σ (List (Answer ε)) :=
  calls.mapM (manager.perform wrap)

/-! ## Sequences -/

theorem run_bind_of_eq {α β : Type} {action : StateM σ α} {next : α → StateM σ β}
    {state after : σ} {value : α} (ran : action.run state = (value, after)) :
    (action >>= next).run state = (next value).run after := by
  rw [StateT.run_bind, ran]
  rfl

/-- An action that begins with one that succeeds goes on behind it. -/
theorem run_bind_of_ok {α β : Type} {action : Action σ α} {next : α → Action σ β}
    {state after : σ} {value : α} (ran : action.run.run state = (.ok value, after)) :
    (action >>= next).run.run state = (next value).run.run after := by
  rw [ExceptT.run_bind, run_bind_of_eq ran]

section History

variable {α β : Type}

/-- Actions one after another, each with what it was for and what it returned. -/
def history (act : α → StateM σ β) (inputs : List α) : StateM σ (List (α × β)) :=
  inputs.mapM fun input => (input, ·) <$> act input

variable (act : α → StateM σ β) (inputs : List α) (state : σ)

theorem run_history_append_singleton (input : α) :
    (history act (inputs ++ [input])).run state =
      (((history act inputs).run state).1 ++
          [(input, ((act input).run ((history act inputs).run state).2).1)],
        ((act input).run ((history act inputs).run state).2).2) := by
  rw [history, List.mapM_append, StateT.run_bind]
  rfl

theorem run_history_singleton (input : α) :
    (history act [input]).run state =
      ([(input, ((act input).run state).1)], ((act input).run state).2) :=
  run_history_append_singleton act [] state input

/-- A history tells what the actions were for. -/
theorem map_fst_history : ((history act inputs).run state).1.map (·.1) = inputs := by
  induction inputs using List.reverseRecOn with
  | nil => rfl
  | append_singleton inputs input ih =>
    rw [run_history_append_singleton, List.map_append, ih]
    rfl

/-- An action that does the same and returns less returns that much of the history. -/
theorem run_mapM_eq_history {γ : Type} {other : α → StateM σ γ} {part : β → γ}
    (same : ∀ input state, (other input).run state =
      (part ((act input).run state).1, ((act input).run state).2)) :
    (inputs.mapM other).run state =
      (((history act inputs).run state).1.map fun entry => part entry.2,
        ((history act inputs).run state).2) := by
  induction inputs using List.reverseRecOn with
  | nil => rfl
  | append_singleton inputs input ih =>
    rw [run_history_append_singleton, List.mapM_append, run_bind_of_eq ih, List.map_append]
    show (_ ++ [((other input).run ((history act inputs).run state).2).1],
      ((other input).run ((history act inputs).run state).2).2) = _
    rw [same]
    rfl

end History

/-! ## Calls about a function of requests -/

section Function

variable (asked : Request → Prop) (f : Request → Except ε Response)

/-- A call computes a function and nothing else, at a request that is asked. -/
def Call.Computes : Call ε → Prop
  | ask _ request compute => asked request ∧ compute = f request
  | look _ request => asked request
  | keep _ request response => asked request ∧ f request = .ok response
  | delete _ _ => True
  | clear _ => True

/-- The answer to a call is the one that needs no cache: `ask` returns what the function does,
`look` returns that or nothing, and no other call fails. -/
def Call.AnsweredBy : Call ε → Answer ε → Prop
  | ask _ request _, .outcome outcome => outcome.result = f request
  | look _ request, .found found =>
    found = .ok none ∨ ∃ response, found = .ok (some response) ∧ f request = .ok response
  | keep _ _ _, .kept result => result = .ok ()
  | delete _ _, .removed result => ∃ existed, result = .ok existed
  | clear _, .cleared result => result = .ok ()
  | _, _ => False

end Function

/-! ## Operations over a faithful backend -/

section Faithful

variable {manager : Manager σ} {MayWrite : String → Response → Prop} {Inv : σ → Prop}
  (faithful : manager.backend.Faithful MayWrite Inv)

include faithful

/-- A lookup returns nothing but a response that may be written under the fingerprint. -/
theorem getResponse_faithful (clocks : Clocks) (request : Request) {state : σ}
    (holds : Inv state) :
    ∃ found after, (manager.getResponse clocks request).run.run state = (.ok found, after) ∧
      Inv after ∧
        ∀ response, found = some response → MayWrite request.fingerprint.hash response := by
  rw [getResponse]
  split
  · obtain ⟨found, after, looked, kept, mayWrite⟩ :=
      faithful.get clocks request.fingerprint.hash holds
    rw [run_bind_of_ok looked]
    cases found with
    | none => exact ⟨none, after, rfl, kept, nofun⟩
    | some entry =>
      dsimp only
      split
      · exact ⟨none, after, rfl, kept, nofun⟩
      · refine ⟨some entry.response, after, rfl, kept, ?_⟩
        intro response same
        cases same
        exact mayWrite entry rfl
  · exact ⟨none, state, rfl, holds, nofun⟩

theorem cacheResponse_faithful (clocks : Clocks) {request : Request} {response : Response}
    (mayWrite : MayWrite request.fingerprint.hash response) {state : σ} (holds : Inv state) :
    ∃ after, (manager.cacheResponse clocks request response).run.run state = (.ok (), after) ∧
      Inv after := by
  rw [cacheResponse]
  split
  · exact faithful.set clocks request.model response.totalTokens mayWrite holds
  · exact ⟨state, rfl, holds⟩

/-- When what may be written under the fingerprint of a request is what the computation gives, the
computation decides what is returned, whether it is run or not. -/
theorem getOrCompute_faithful (clocks : Clocks) {request : Request} (wrap : Error → ε)
    {compute : Except ε Response}
    (decided : ∀ response, MayWrite request.fingerprint.hash response ↔ compute = .ok response)
    {state : σ} (holds : Inv state) :
    ∃ computed after, (manager.getOrCompute clocks request wrap compute).run state =
      (⟨compute, computed⟩, after) ∧ Inv after := by
  obtain ⟨found, after, looked, kept, mayWrite⟩ := getResponse_faithful faithful clocks request holds
  unfold getOrCompute getOrComputeUntil
  rw [run_bind_of_eq looked]
  cases found with
  | some response =>
    -- A hit may be written under the fingerprint, so it is what the computation gives.
    rw [(decided response).1 (mayWrite response rfl)]
    exact ⟨false, after, rfl, kept⟩
  | none =>
    -- After a miss the computation is run; what it gives is kept, and a failure is not.
    cases compute with
    | error failure => exact ⟨true, after, rfl, kept⟩
    | ok response =>
      obtain ⟨last, written, kept⟩ :=
        cacheResponse_faithful faithful clocks ((decided response).2 rfl) kept
      refine ⟨true, last, ?_, kept⟩
      dsimp only
      rw [run_bind_of_eq written]
      rfl

/-! ## Runs -/

variable {asked : Request → Prop} {f : Request → Except ε Response}
  (decided : ∀ request response, asked request →
    (MayWrite request.fingerprint.hash response ↔ f request = .ok response))

include decided

/-- A call that computes a function is answered as without a cache, and keeps the invariant. -/
theorem answeredBy_perform (wrap : Error → ε) {call : Call ε} (computes : call.Computes asked f)
    {state : σ} (holds : Inv state) :
    call.AnsweredBy f ((manager.perform wrap call).run state).1 ∧
      Inv ((manager.perform wrap call).run state).2 := by
  cases call with
  | ask clocks request compute =>
    obtain ⟨isAsked, rfl⟩ := computes
    obtain ⟨computed, after, ran, kept⟩ := getOrCompute_faithful faithful clocks wrap
      (fun response => decided request response isAsked) holds
    rw [perform, StateT.run_map, ran]
    exact ⟨rfl, kept⟩
  | look clocks request =>
    obtain ⟨found, after, ran, kept, mayWrite⟩ :=
      getResponse_faithful faithful clocks request holds
    rw [perform, StateT.run_map, ran]
    refine ⟨?_, kept⟩
    -- A lookup may always miss; a hit is what the function gives.
    cases found with
    | none => exact .inl rfl
    | some response =>
      exact .inr ⟨response, rfl, (decided request response computes).1 (mayWrite response rfl)⟩
  | keep clocks request response =>
    obtain ⟨isAsked, given⟩ := computes
    obtain ⟨after, ran, kept⟩ := cacheResponse_faithful faithful clocks
      ((decided request response isAsked).2 given) holds
    rw [perform, StateT.run_map, ran]
    exact ⟨rfl, kept⟩
  | delete clocks key =>
    obtain ⟨existed, after, ran, kept⟩ := faithful.delete clocks key holds
    rw [perform, StateT.run_map, ran]
    exact ⟨⟨existed, rfl⟩, kept⟩
  | clear clocks =>
    obtain ⟨after, ran, kept⟩ := faithful.clear clocks holds
    rw [perform, StateT.run_map, ran]
    exact ⟨rfl, kept⟩

/-- Along a run over a faithful backend, every call is answered as without a cache. -/
theorem forall₂_run (wrap : Error → ε) {calls : List (Call ε)}
    (computes : ∀ call ∈ calls, call.Computes asked f) {state : σ} (holds : Inv state) :
    List.Forall₂ (Call.AnsweredBy f) calls ((manager.run wrap calls).run state).1 ∧
      Inv ((manager.run wrap calls).run state).2 := by
  -- The invariant carries what is known of the cache from one call to the next.
  induction calls generalizing state with
  | nil => exact ⟨.nil, holds⟩
  | cons call calls ih =>
    obtain ⟨answered, kept⟩ :=
      answeredBy_perform faithful decided wrap (computes call List.mem_cons_self) holds
    obtain ⟨others, last⟩ :=
      ih (fun other mem => computes other (List.mem_cons_of_mem _ mem)) kept
    rw [run, List.mapM_cons, StateT.run_bind]
    exact ⟨.cons answered others, last⟩

end Faithful

end CompletionCache.Manager
