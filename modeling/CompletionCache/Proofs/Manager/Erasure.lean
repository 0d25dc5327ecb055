import CompletionCache.Proofs.LocalCache.WellKept
import CompletionCache.Proofs.Manager.Run
import CompletionCache.Proofs.Request.CanonicalText

/-!
# Requests that take no part leave no trace

A call about a request that is not eligible returns at once and does not touch the backend
(`run_getResponse_of_not_admits` and its siblings). Such calls can therefore be struck out of a run: all
other calls are answered as before, and the backend ends up in the same state (`run_takingPart`). Behind
each of the others the state is that of a lookup or of a write under its own model
(`run_getOrComputeUntil_snd`), so the cache in process never holds a model that is kept out, and one that
is disabled stays empty and counts nothing (`keptOut_run`).
-/

set_option autoImplicit false

namespace CompletionCache.Manager

variable {σ ε : Type}

/-! ## Calls that take part -/

/-- The request that a call is about, if it is about one. -/
def Call.request? : Call ε → Option Request
  | ask _ request _ => some request
  | look _ request => some request
  | keep _ request _ => some request
  | delete _ _ => none
  | clear _ => none

/-- Whether a call takes part in caching: its request is eligible, or it has none. -/
def Call.takesPart (config : Config) (call : Call ε) : Bool := call.request?.all config.admits

/-- The calls of a run that take part. -/
def takingPart (config : Config) (calls : List (Call ε)) : List (Call ε) :=
  calls.filter (Call.takesPart config)

/-- The answer to a call that takes no part. -/
def Call.answeredAside : Call ε → Answer ε
  | ask _ _ compute => .outcome ⟨compute, true⟩
  | look _ _ => .found (.ok none)
  | keep _ _ _ => .kept (.ok ())
  | delete _ _ => .removed (.ok false)
  | clear _ => .cleared (.ok ())

/-! ## Requests that are not eligible -/

/-- A request is eligible if the cache is enabled, its model is not kept out, and it asks for no stream
unless streams are cached. -/
theorem admits_iff {config : Config} {request : Request} :
    config.admits request = true ↔ config.enabled = true ∧
      request.model ∉ config.excludedModels ∧
        (request.stream = true → config.cacheStreaming = true) := by
  rw [Config.admits, Config.eligibility]
  by_cases excluded : request.model ∈ config.excludedModels <;> cases config.enabled <;>
    cases request.stream <;> cases config.cacheStreaming <;>
    simp [Config.isExcluded, excluded, Eligibility.isEligible]

section NotAdmitted

variable {manager : Manager σ} {request : Request} (kept : manager.config.admits request = false)

include kept

theorem run_getResponse_of_not_admits (clocks : Clocks) (state : σ) :
    (manager.getResponse clocks request).run.run state = (.ok none, state) := by
  rw [getResponse, if_neg (by simp [kept])]
  rfl

theorem run_cacheResponse_of_not_admits (clocks : Clocks) (response : Response) (state : σ) :
    (manager.cacheResponse clocks request response).run.run state = (.ok (), state) := by
  rw [cacheResponse, if_neg (by simp [kept])]
  rfl

/-- Without a part in caching, the computation is run and its outcome is returned. -/
theorem run_getOrComputeUntil_of_not_admits (clocks ended : Clocks) (wrap : Error → ε)
    (compute : Except ε Response) (state : σ) :
    (manager.getOrComputeUntil clocks ended request wrap compute).run state =
      (⟨compute, true⟩, state) := by
  unfold getOrComputeUntil
  rw [run_bind_of_eq (run_getResponse_of_not_admits kept clocks state)]
  cases compute with
  | error failure => rfl
  | ok response =>
    dsimp only
    rw [run_bind_of_eq (run_cacheResponse_of_not_admits kept ended response state)]
    rfl

end NotAdmitted

/-- A call takes no part exactly if it is about a request that the config keeps out. -/
theorem takesPart_eq_false_iff {config : Config} {call : Call ε} :
    call.takesPart config = false ↔ ∃ request, call.request? = some request ∧
      (config.enabled = false ∨ request.model ∈ config.excludedModels ∨
        (request.stream = true ∧ config.cacheStreaming = false)) := by
  rw [Call.takesPart]
  cases call.request? with
  | none => simp
  | some request =>
    rw [Option.all_some, ← Bool.not_eq_true, admits_iff]
    simp only [Option.some.injEq, exists_eq_left']
    cases config.enabled <;> cases config.cacheStreaming <;> simp [Decidable.or_iff_not_imp_left]

/-- A call that takes no part does not touch the backend. -/
theorem run_perform_of_not_takesPart {manager : Manager σ} {call : Call ε}
    (aside : call.takesPart manager.config = false) (wrap : Error → ε) (state : σ) :
    (manager.perform wrap call).run state = (call.answeredAside, state) := by
  cases call with
  | ask clocks request compute =>
    rw [perform, StateT.run_map, getOrCompute, run_getOrComputeUntil_of_not_admits aside]
    rfl
  | look clocks request =>
    rw [perform, StateT.run_map, run_getResponse_of_not_admits aside]
    rfl
  | keep clocks request response =>
    rw [perform, StateT.run_map, run_cacheResponse_of_not_admits aside]
    rfl
  | delete clocks key => cases aside
  | clear clocks => cases aside

theorem run_cons (manager : Manager σ) (wrap : Error → ε) (call : Call ε) (calls : List (Call ε))
    (state : σ) :
    (manager.run wrap (call :: calls)).run state =
      (((manager.perform wrap call).run state).1 ::
          ((manager.run wrap calls).run ((manager.perform wrap call).run state).2).1,
        ((manager.run wrap calls).run ((manager.perform wrap call).run state).2).2) := by
  rw [run, List.mapM_cons, StateT.run_bind]
  rfl

/-- The calls that take no part can be struck out of a run. They are answered without the backend, all
others are answered as before, and the backend ends up in the same state. -/
theorem run_takingPart (manager : Manager σ) (wrap : Error → ε) (calls : List (Call ε)) (state : σ) :
    ∃ answers after, (manager.run wrap calls).run state = (answers, after) ∧
      answers.length = calls.length ∧
      (∀ call answer, (call, answer) ∈ calls.zip answers →
        call.takesPart manager.config = false → answer = call.answeredAside) ∧
      (manager.run wrap (takingPart manager.config calls)).run state =
        (((calls.zip answers).filter fun served => served.1.takesPart manager.config).map (·.2),
          after) := by
  -- Along the run, the two states stay the same: a call that is struck out has left its state alone.
  induction calls generalizing state with
  | nil => exact ⟨[], state, rfl, rfl, by simp, rfl⟩
  | cons call calls ih =>
    cases part : call.takesPart manager.config with
    | false =>
      have performed := run_perform_of_not_takesPart part wrap state
      obtain ⟨answers, after, ran, sameLength, aside, struck⟩ := ih state
      refine ⟨call.answeredAside :: answers, after, ?_, by simp [sameLength], ?_, ?_⟩
      · rw [run_cons, performed, ran]
      · intro other answer mem notPart
        rcases List.mem_cons.1 mem with same | mem
        · cases same
          rfl
        · exact aside other answer mem notPart
      · rw [takingPart, List.filter_cons_of_neg (by simp [part]), List.zip_cons_cons,
          List.filter_cons_of_neg (by simp [part])]
        exact struck
    | true =>
      generalize performed : (manager.perform wrap call).run state = result
      obtain ⟨answer, next⟩ := result
      obtain ⟨answers, after, ran, sameLength, aside, struck⟩ := ih next
      refine ⟨answer :: answers, after, ?_, by simp [sameLength], ?_, ?_⟩
      · rw [run_cons, performed, ran]
      · intro other answer mem notPart
        rcases List.mem_cons.1 mem with same | mem
        · cases same
          rw [part] at notPart
          cases notPart
        · exact aside other answer mem notPart
      · rw [takingPart, List.filter_cons_of_pos part, List.zip_cons_cons,
          List.filter_cons_of_pos (by exact part), run_cons, performed]
        dsimp only
        rw [← takingPart, struck]
        rfl

/-! ## What a call leaves behind -/

section Behind

variable (manager : Manager σ) (clocks ended : Clocks) (request : Request) (state : σ)

/-- Behind a lookup by request the backend has been looked up, if the request is eligible. -/
theorem run_getResponse_snd :
    ((manager.getResponse clocks request).run.run state).2 =
      if manager.config.admits request then
        manager.backend.step state ⟨clocks, .get request.fingerprint.hash⟩
      else state := by
  rw [getResponse]
  split
  · rw [ExceptT.run_bind, StateT.run_bind, Backend.step_get]
    generalize (manager.backend.get clocks request.fingerprint.hash).run.run state = looked
    obtain ⟨found, after⟩ := looked
    -- Whatever the backend returns, the state is not touched behind it.
    cases found with
    | error fault => rfl
    | ok found => cases found <;> rfl
  · rfl

/-- Behind a write by request the backend has been written under the model of the request, if the
request is eligible. -/
theorem run_cacheResponse_snd (response : Response) :
    ((manager.cacheResponse clocks request response).run.run state).2 =
      if manager.config.admits request then
        manager.backend.step state ⟨clocks,
          .set request.fingerprint.hash response request.model response.totalTokens⟩
      else state := by
  rw [cacheResponse]
  split
  · rw [Backend.step_set]
  · rfl

/-- A call that may compute leaves what the lookup has left, and writes at most what was computed. -/
theorem run_getOrComputeUntil_snd (wrap : Error → ε) (compute : Except ε Response) :
    ((manager.getOrComputeUntil clocks ended request wrap compute).run state).2 =
        ((manager.getResponse clocks request).run.run state).2 ∨
      ∃ response, compute = .ok response ∧
        ((manager.getOrComputeUntil clocks ended request wrap compute).run state).2 =
          ((manager.cacheResponse ended request response).run.run
            ((manager.getResponse clocks request).run.run state).2).2 := by
  unfold getOrComputeUntil
  generalize looked : (manager.getResponse clocks request).run.run state = result
  obtain ⟨found, after⟩ := result
  rw [run_bind_of_eq looked]
  -- Only a lookup that finds nothing is followed by the computation, and only a success by a write.
  cases found with
  | error fault => exact .inl rfl
  | ok found =>
    cases found with
    | some response => exact .inl rfl
    | none =>
      cases compute with
      | error failure => exact .inl rfl
      | ok response =>
        refine .inr ⟨response, rfl, ?_⟩
        dsimp only
        generalize written : (manager.cacheResponse ended request response).run.run after = result
        obtain ⟨written?, last⟩ := result
        rw [run_bind_of_eq written]
        cases written? <;> rfl

end Behind

/-! ## What the cache in process holds -/

/-- The manager of a cache in process. -/
def inProcess (config : Config) : Manager LocalCache := ⟨config, LocalCache.backend⟩

/-- The cache holds no model that a config keeps out, and is idle if the config disables it. -/
structure KeptOut (config : Config) (cache : LocalCache) : Prop where
  models : ∀ item ∈ cache.entries.items, item.2.model ∉ config.excludedModels
  idle : config.enabled = false → cache.entries = .empty ∧ cache.hits = 0 ∧ cache.misses = 0

section KeptOut

variable {config : Config} {cache : LocalCache}

theorem keptOut_fresh (settings : Config) (interval : Duration) (mono : Instant) :
    KeptOut config (LocalCache.fresh settings interval mono) :=
  ⟨fun _ mem => absurd mem List.not_mem_nil, fun _ => ⟨rfl, rfl, rfl⟩⟩

/-- An enabled cache may be looked up, and written under a model that is not kept out. -/
theorem KeptOut.step (keptOut : KeptOut config cache) (enabled : config.enabled = true) {event : Event}
    (written : ∀ key response model tokens, event.operation = .set key response model tokens →
      model ∉ config.excludedModels) :
    KeptOut config (LocalCache.backend.step cache event) where
  models := LocalCache.forall_items_step written keptOut.models
  idle disabled := by
    rw [enabled] at disabled
    cases disabled

theorem KeptOut.getResponse (keptOut : KeptOut config cache) (clocks : Clocks) (request : Request) :
    KeptOut config
      (((inProcess config).getResponse clocks request).run.run cache).2 := by
  rw [run_getResponse_snd]
  split
  · next admitted => exact keptOut.step (admits_iff.1 admitted).1 nofun
  · exact keptOut

theorem KeptOut.cacheResponse (keptOut : KeptOut config cache) (clocks : Clocks) (request : Request)
    (response : Response) :
    KeptOut config
      (((inProcess config).cacheResponse clocks request response).run.run cache).2 := by
  rw [run_cacheResponse_snd]
  split
  · next admitted =>
    obtain ⟨enabled, included, -⟩ := admits_iff.1 admitted
    refine keptOut.step enabled ?_
    rintro key _ model tokens ⟨⟩
    exact included
  · exact keptOut

/-- Every call leaves out what the config keeps out. -/
theorem KeptOut.perform (keptOut : KeptOut config cache) (wrap : Error → ε) (call : Call ε) :
    KeptOut config (((inProcess config).perform wrap call).run cache).2 := by
  cases call with
  | ask clocks request compute =>
    show KeptOut config (((inProcess config).getOrComputeUntil clocks clocks request wrap
      compute).run cache).2
    have looked := keptOut.getResponse clocks request
    rcases run_getOrComputeUntil_snd (inProcess config) clocks clocks request cache wrap
      compute with after | ⟨response, -, after⟩
    · rw [after]
      exact looked
    · rw [after]
      exact looked.cacheResponse clocks request response
  | look clocks request => exact keptOut.getResponse clocks request
  | keep clocks request response => exact keptOut.cacheResponse clocks request response
  | delete clocks key =>
    refine ⟨fun item mem => keptOut.models item ?_, fun disabled => ?_⟩
    · exact (Recency.items_erase_sublist _ key).subset mem
    · obtain ⟨vacant, hits, misses⟩ := keptOut.idle disabled
      refine ⟨?_, hits, misses⟩
      show cache.entries.erase key = .empty
      rw [vacant]
      rfl
  | clear clocks => exact ⟨fun _ mem => absurd mem List.not_mem_nil, fun _ => ⟨rfl, rfl, rfl⟩⟩

theorem keptOut_run (keptOut : KeptOut config cache) (wrap : Error → ε) (calls : List (Call ε)) :
    KeptOut config (((inProcess config).run wrap calls).run cache).2 := by
  induction calls generalizing cache with
  | nil => exact keptOut
  | cons call calls ih =>
    rw [run_cons]
    exact ih (keptOut.perform wrap call)

end KeptOut

/-! ## Runs without a trace -/

/-- Whatever the backend, the calls of a run about requests that are not eligible change neither what
the other calls return nor the state that the run leaves. A cache in process that is used through such
calls alone never holds a model that is kept out; if it is disabled, it stays empty and counts nothing. -/
theorem ineligible_calls_leave_no_trace (config : Config) (wrap : Error → ε) (calls : List (Call ε)) :
    (∀ call : Call ε, call.takesPart config = false ↔ ∃ request, call.request? = some request ∧
      (config.enabled = false ∨ request.model ∈ config.excludedModels ∨
        (request.stream = true ∧ config.cacheStreaming = false))) ∧
    (∀ {σ : Type} (backend : Backend σ) (state : σ), ∃ answers after,
      ((mk config backend).run wrap calls).run state = (answers, after) ∧
      answers.length = calls.length ∧
      (∀ call answer, (call, answer) ∈ calls.zip answers → call.takesPart config = false →
        answer = call.answeredAside) ∧
      ((mk config backend).run wrap (takingPart config calls)).run state =
        (((calls.zip answers).filter fun served => served.1.takesPart config).map (·.2), after)) ∧
    ∀ (settings : Config) (interval : Duration) (mono : Instant),
      KeptOut config (((inProcess config).run wrap calls).run
        (LocalCache.fresh settings interval mono)).2 := by
  refine ⟨fun _ => takesPart_eq_false_iff, ?_, ?_⟩
  · intro σ backend state
    exact run_takingPart (mk config backend) wrap calls state
  · intro settings interval mono
    exact keptOut_run (keptOut_fresh settings interval mono) wrap calls

/-- A lookup between a computation and a write for a request that asks for a stream. -/
def streamedCalls : List (Call String) :=
  [.ask ⟨0, 0⟩ (Request.chatRequest true) (.ok (.ofText "first")),
    .look ⟨5, 6⟩ (Request.chatRequest false),
    .keep ⟨9, 9⟩ (Request.chatRequest true) (.ofText "second")]

/-- The settings of a cache that is switched off. -/
def disabledConfig : Config := { Config.default with enabled := false }

/-- Without streams in the cache, the lookup is all that is left of the run; and a cache that is switched
off stays empty. -/
theorem streamedCalls_leave_no_trace :
    takingPart .default streamedCalls = [.look ⟨5, 6⟩ (Request.chatRequest false)] ∧
    (∃ found after,
      ((inProcess .default).run (fun _ => "cache") streamedCalls).run
          (LocalCache.fresh .default 4 0) =
        ([.outcome ⟨.ok (.ofText "first"), true⟩, found, .kept (.ok ())], after) ∧
      ((inProcess .default).run (fun _ => "cache") [.look ⟨5, 6⟩ (Request.chatRequest false)]).run
          (LocalCache.fresh .default 4 0) = ([found], after)) ∧
    (((inProcess disabledConfig).run (fun _ => "cache") streamedCalls).run
      (LocalCache.fresh disabledConfig 4 0)).2.entries = .empty := by
  refine ⟨rfl, ?_, ?_⟩
  · obtain ⟨answers, after, ran, sameLength, aside, struck⟩ :=
      (ineligible_calls_leave_no_trace .default (fun _ => "cache") streamedCalls).2.1
        LocalCache.backend (LocalCache.fresh .default 4 0)
    obtain ⟨first, found, last, rfl⟩ := List.length_eq_three.1 sameLength
    have firstAside := aside _ first List.mem_cons_self rfl
    have lastAside := aside (.keep ⟨9, 9⟩ (Request.chatRequest true) (.ofText "second")) last
      (by simp [streamedCalls]) rfl
    subst firstAside lastAside
    exact ⟨found, after, ran, struck⟩
  · have keptOut := (ineligible_calls_leave_no_trace disabledConfig (fun _ => "cache")
      streamedCalls).2.2 disabledConfig 4 0
    exact (keptOut.idle rfl).1

end CompletionCache.Manager
