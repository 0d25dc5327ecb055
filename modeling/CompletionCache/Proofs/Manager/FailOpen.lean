import CompletionCache.Proofs.Manager.Run
import CompletionCache.Proofs.SharedCache.Exchanges

/-!
# A manager of a shared cache fails open

A manager is used through the operations of its backend and through calls of its own. Whatever passes
between the cache and its store while it is used, nothing fails but what it is told to compute
(`observe_failsOpen`): a lookup returns what the store returned and what has not expired, or else it
misses, and the computation then decides.
-/

set_option autoImplicit false

namespace CompletionCache.Manager

open SharedCache (Mirrors Within Silent Hit TellsRemoved)

variable {σ ε : Type}

/-! ## Uses -/

/-- What a manager is used for: an operation of its backend, or a call. -/
inductive Use (ε : Type) where
  | direct (event : Event)
  | managed (call : Call ε)

/-- What a use returns. -/
inductive Reaction (ε : Type) where
  | direct (result : Result CompletionCache.Answer)
  | managed (answer : Answer ε)

/-- What a manager does when it is used. -/
def react (manager : Manager σ) (wrap : Error → ε) : Use ε → StateM σ (Reaction ε)
  | .direct event => .direct <$> (manager.backend.perform event).run
  | .managed call => .managed <$> manager.perform wrap call

/-- What a manager of a shared cache does when it is used, and what passes meanwhile. -/
def observe (config : Config) (store : Store σ) (wrap : Error → ε) (use : Use ε) :
    StateM (SharedCache × σ) (Reaction ε × List Exchange) := fun (cache, state) =>
  let (reaction, cache', state', exchanges) :=
    ((mk config (SharedCache.backend store.recorded)).react wrap use).run (cache, state, [])
  ((reaction, exchanges), (cache', state'))

/-! ## What may be returned -/

/-- A call does not fail. What is hit is returned; when nothing is, the computation is run, and its
response or its failure is returned as it is. -/
def Call.FailsOpen (keyPrefix : String) (exchanges : List Exchange) : Call ε → Answer ε → Prop
  | ask clocks request compute, .outcome outcome =>
    (∃ entry, Hit keyPrefix request.fingerprint.hash clocks.wall exchanges entry ∧
      outcome = ⟨.ok entry.response, false⟩) ∨
    ((∀ entry, ¬Hit keyPrefix request.fingerprint.hash clocks.wall exchanges entry) ∧
      outcome = ⟨compute, true⟩)
  | look clocks request, .found result => ∃ found, result = .ok found ∧
      ∀ response, found = some response ↔ ∃ entry,
        Hit keyPrefix request.fingerprint.hash clocks.wall exchanges entry ∧
          entry.response = response
  | keep _ _ _, .kept result => result = .ok ()
  | delete _ key, .removed result => ∃ existed, result = .ok existed ∧
      TellsRemoved keyPrefix key exchanges existed
  | clear _, .cleared result => result = .ok ()
  | _, _ => False

/-- Neither an operation nor a call fails. -/
def Use.FailsOpen (keyPrefix : String) : Use ε → Reaction ε × List Exchange → Prop
  | direct event, (.direct result, exchanges) =>
    SharedCache.FailsOpen keyPrefix event result exchanges
  | managed call, (.managed answer, exchanges) => call.FailsOpen keyPrefix exchanges answer
  | _, _ => False

/-! ## Calls -/

section Store

variable {store : Store σ} {address : StoreConfig} (config : Config)

/-- A lookup by request returns what is hit under its fingerprint. -/
theorem mirrors_getResponse (clocks : Clocks) (request : Request) :
    Mirrors address
      ((mk config (SharedCache.backend store.recorded)).getResponse clocks request).run
      ((mk config (SharedCache.backend store)).getResponse clocks request).run
      fun result exchanges => ∃ found, result = .ok found ∧
        ∀ response, found = some response ↔ ∃ entry,
          Hit address.keyPrefix request.fingerprint.hash clocks.wall exchanges entry ∧
            entry.response = response := by
  have looked : Mirrors address
      ((SharedCache.backend store.recorded).get clocks request.fingerprint.hash).run
      ((SharedCache.backend store).get clocks request.fingerprint.hash).run
      fun result exchanges => ∃ found, result = .ok found ∧ ∀ entry, found = some entry ↔
        Hit address.keyPrefix request.fingerprint.hash clocks.wall exchanges entry :=
    ((SharedCache.mirrors_get clocks request.fingerprint.hash).imp
      fun found _ finds => ⟨found, rfl, finds⟩).map
  unfold getResponse
  dsimp only
  -- A request that takes no part in caching is not looked up, and nothing passes.
  split
  · refine looked.bindExcept ?_ ?_
    · rintro fault _ ⟨_, ok, -⟩
      cases ok
    rintro found exchanges ⟨_, ok, finds⟩
    obtain rfl := Except.ok.inj ok
    cases found with
    | none =>
      apply SharedCache.mirrors_pure
      refine ⟨none, rfl, ?_⟩
      simp [← finds]
    | some entry =>
      -- The cache has looked at the expiry already, and the manager does so again.
      have alive := ((finds entry).1 rfl).2
      simp only [alive]
      apply SharedCache.mirrors_pure
      refine ⟨some entry.response, rfl, ?_⟩
      simp [← finds]
  · apply SharedCache.mirrors_pure
    refine ⟨none, rfl, ?_⟩
    simp [Hit, SharedCache.Fetched]

theorem mirrors_cacheResponse (clocks : Clocks) (request : Request) (response : Response) :
    Mirrors address
      ((mk config (SharedCache.backend store.recorded)).cacheResponse clocks request response).run
      ((mk config (SharedCache.backend store)).cacheResponse clocks request response).run
      fun result exchanges => result = .ok () ∧ Within Silent result exchanges := by
  unfold cacheResponse
  dsimp only
  split
  · exact ((SharedCache.mirrors_set clocks _ response request.model response.totalTokens).imp
      fun _ _ silent => ⟨rfl, silent⟩).map
  · exact SharedCache.mirrors_pure ⟨rfl, SharedCache.within_nil _⟩

theorem hit_append_of_silent {keyPrefix key : String} {now : Instant}
    {exchanges others : List Exchange} {entry : Entry} {value : Result Unit}
    (silent : Within Silent value others) :
    Hit keyPrefix key now (exchanges ++ others) entry ↔ Hit keyPrefix key now exchanges entry := by
  have same : ∀ answer, Exchange.asked (.get (keyPrefix ++ key)) answer ∈ exchanges ++ others ↔
      Exchange.asked (.get (keyPrefix ++ key)) answer ∈ exchanges := by
    intro answer
    rw [List.mem_append, or_iff_left]
    intro mem
    cases silent _ mem
  simp only [Hit, SharedCache.Fetched, same]

/-- A call that may compute returns what is hit, or else the outcome of the computation. -/
theorem mirrors_getOrCompute (clocks : Clocks) (request : Request) (wrap : Error → ε)
    (compute : Except ε Response) :
    Mirrors address
      ((mk config (SharedCache.backend store.recorded)).getOrCompute clocks request wrap compute)
      ((mk config (SharedCache.backend store)).getOrCompute clocks request wrap compute)
      fun outcome exchanges =>
        (Call.ask clocks request compute).FailsOpen address.keyPrefix exchanges
          (.outcome outcome) := by
  unfold getOrCompute getOrComputeUntil
  refine (mirrors_getResponse config clocks request).bind ?_
  rintro _ exchanges ⟨found, rfl, finds⟩
  cases found with
  | some response =>
    apply SharedCache.mirrors_pure
    obtain ⟨entry, hit, rfl⟩ := (finds response).1 rfl
    refine .inl ⟨entry, ?_, rfl⟩
    rwa [List.append_nil]
  | none =>
    -- Nothing is hit, and what is written behind the computation looks nothing up.
    have missed : ∀ entry,
        ¬Hit address.keyPrefix request.fingerprint.hash clocks.wall exchanges entry := by
      intro entry hit
      cases (finds entry.response).2 ⟨entry, hit, rfl⟩
    cases compute with
    | error failure =>
      apply SharedCache.mirrors_pure
      refine .inr ⟨?_, rfl⟩
      rwa [List.append_nil]
    | ok response =>
      refine (mirrors_cacheResponse config clocks request response).bind ?_
      rintro _ others ⟨rfl, silent⟩
      apply SharedCache.mirrors_pure
      refine .inr ⟨fun entry => ?_, rfl⟩
      rw [List.append_nil, hit_append_of_silent silent]
      exact missed entry

/-- Every call to a manager of a shared cache fails open. -/
theorem mirrors_call (wrap : Error → ε) (call : Call ε) :
    Mirrors address ((mk config (SharedCache.backend store.recorded)).perform wrap call)
      ((mk config (SharedCache.backend store)).perform wrap call)
      fun answer exchanges => call.FailsOpen address.keyPrefix exchanges answer := by
  cases call with
  | ask clocks request compute => exact (mirrors_getOrCompute config clocks request wrap compute).map
  | look clocks request => exact (mirrors_getResponse config clocks request).map
  | keep clocks request response =>
    exact ((mirrors_cacheResponse config clocks request response).imp fun _ _ done => done.1).map
  | delete clocks key =>
    refine Mirrors.map (Mirrors.map ?_)
    refine (SharedCache.mirrors_delete clocks key).imp ?_
    exact fun existed _ tells => ⟨existed, rfl, tells⟩
  | clear clocks =>
    have cleared : Mirrors address ((SharedCache.backend store.recorded).clear clocks).run
        ((SharedCache.backend store).clear clocks).run fun result _ => result = .ok () :=
      Mirrors.map (f := Except.ok) ((SharedCache.mirrors_clear clocks).imp fun _ _ _ => rfl)
    exact cleared.map

/-- Whatever a manager of a shared cache is used for, it fails open. -/
theorem mirrors_react (wrap : Error → ε) (use : Use ε) :
    Mirrors address ((mk config (SharedCache.backend store.recorded)).react wrap use)
      ((mk config (SharedCache.backend store)).react wrap use)
      fun reaction exchanges => use.FailsOpen address.keyPrefix (reaction, exchanges) := by
  cases use with
  | direct event =>
    apply Mirrors.map
    exact SharedCache.mirrors_perform event
  | managed call =>
    apply Mirrors.map
    exact mirrors_call config wrap call

end Store

/-! ## Runs -/

section Runs

variable (config : Config) (store : Store σ) (wrap : Error → ε)

/-- One use: it fails open, and to observe it changes nothing. -/
theorem observe_failsOpen (use : Use ε) (cache : SharedCache) (state : σ) :
    ∃ reaction exchanges cache' state',
      (observe config store wrap use).run (cache, state) =
        ((reaction, exchanges), (cache', state')) ∧
      ((mk config (SharedCache.backend store)).react wrap use).run (cache, state) =
        (reaction, (cache', state')) ∧
      cache'.store = cache.store ∧ use.FailsOpen cache.store.keyPrefix (reaction, exchanges) := by
  have mirrors : Mirrors cache.store ((mk config (SharedCache.backend store.recorded)).react wrap use)
      ((mk config (SharedCache.backend store)).react wrap use) fun reaction exchanges =>
        use.FailsOpen cache.store.keyPrefix (reaction, exchanges) := mirrors_react config wrap use
  -- The record begins empty, so what it holds behind the use is what passed meanwhile.
  obtain ⟨reaction, cache', state', exchanges, ran, ranRecorded, kept, failsOpen⟩ :=
    mirrors cache state [] rfl
  refine ⟨reaction, exchanges, cache', state', ?_, ran, kept, failsOpen⟩
  unfold observe
  simp only [StateT.run, List.nil_append] at ranRecorded ⊢
  rw [ranRecorded]

/-- Whatever a manager of a shared cache is used for, one use after another, and whatever the store
does, each use fails open; and what is observed is what happens when nobody observes. -/
theorem run_failsOpen (uses : List (Use ε)) (cache : SharedCache) (state : σ) :
    List.Forall₂ (Use.FailsOpen cache.store.keyPrefix) uses
      ((uses.mapM (observe config store wrap)).run (cache, state)).1 ∧
    (uses.mapM ((mk config (SharedCache.backend store)).react wrap)).run (cache, state) =
      (((uses.mapM (observe config store wrap)).run (cache, state)).1.map (·.1),
        ((uses.mapM (observe config store wrap)).run (cache, state)).2) := by
  -- From one use to the next, the cache keeps the address of its store.
  induction uses generalizing cache state with
  | nil => exact ⟨.nil, rfl⟩
  | cons use uses ih =>
    obtain ⟨reaction, exchanges, cache', state', observed, reacted, kept, failsOpen⟩ :=
      observe_failsOpen config store wrap use cache state
    obtain ⟨others, same⟩ := ih cache' state'
    rw [kept] at others
    simp only [List.mapM_cons]
    rw [run_bind_of_eq observed, run_bind_of_eq reacted, StateT.run_bind, StateT.run_bind, same]
    exact ⟨.cons failsOpen others, rfl⟩

end Runs

/-- A store that answers every command with one reply. -/
def replying (reply : Reply) : Store Unit where
  connect _ := return .connected
  answer _ := return .ok reply
  waited _ := 0

/-- Replies are read as counts, so a negative reply to a deletion tells of many removed keys. -/
theorem removed_true_behind_negative_reply :
    ∃ cache behind exchanges,
      SharedCache.create .default (.ofUrl "redis://cache/0") = .ok cache ∧
      (observe .default (replying (.integer (-1))) (fun _ => ())
        (.direct ⟨⟨0, 0⟩, .delete "k"⟩)).run (cache, ()) =
          ((.direct (.ok (.removed true)), exchanges), (behind, ())) ∧
      ∀ reply, .asked (.delete ["cache:k"]) (.ok reply) ∈ exchanges →
        ∃ value, reply = .integer value ∧ ¬0 < value := by
  have created : SharedCache.create .default (.ofUrl "redis://cache/0") =
      .ok ⟨.default, .ofUrl "redis://cache/0", false, none, 0, 0, 0⟩ := rfl
  refine ⟨_, _, [.dialled .connected, .asked (.delete ["cache:k"]) (.ok (.integer (-1)))], created,
    rfl, ?_⟩
  intro reply mem
  obtain rfl : reply = .integer (-1) := by simpa using mem
  exact ⟨-1, rfl, by decide⟩

end CompletionCache.Manager
