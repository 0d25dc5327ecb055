import CompletionCache.Proofs.Manager.Run
import CompletionCache.Proofs.Request.CanonicalText
import CompletionCache.Proofs.SharedCache.Faithful

/-!
# A cache in front of a function changes none of its results

A function of requests may be cached when it reads no more than the fingerprint covers
(`Cacheable`). Under the fingerprint of a request, nothing but the result for that request may then
be written (`Cacheable.gives_iff`): the hash tells canonical texts apart, the canonical text decides
every field that the function reads, and so requests with one fingerprint have one result. Hence
`run_transparent`: from an empty cache in process, and from a shared store that holds nothing but
documents of the same function, every call is answered as it would be without a cache.
-/

set_option autoImplicit false

namespace CompletionCache.Manager

variable {ε : Type}

/-- A function that may be cached for the requests that are asked: they come from well-formed bodies,
the hash tells their canonical texts apart, and the function does not read the flag for streaming
and returns well-formed responses. -/
structure Cacheable (asked : Request → Prop) (f : Request → Except ε Response) : Prop where
  accepted : ∀ request, asked request →
    ∃ body : Json, body.WellFormed ∧ Request.ofBody body = .ok request
  hashApart : ∀ request request', asked request → asked request' →
    request.fingerprint.hash = request'.fingerprint.hash →
      request.canonicalText = request'.canonicalText
  eqOfAgree : ∀ request request', asked request → asked request' → request.Agree request' →
    f request = f request'
  wellFormed : ∀ request response, asked request → f request = .ok response → response.WellFormed

/-- A function gives a response for a request that is asked and has its fingerprint under a key. -/
def Gives (asked : Request → Prop) (f : Request → Except ε Response) (key : String)
    (response : Response) : Prop :=
  ∃ request, asked request ∧ request.fingerprint.hash = key ∧ f request = .ok response

section Cacheable

variable {asked : Request → Prop} {f : Request → Except ε Response}
  (cacheable : Cacheable asked f)

include cacheable

theorem Cacheable.agree {request request' : Request} (isAsked : asked request)
    (isAsked' : asked request') (hash : request.fingerprint.hash = request'.fingerprint.hash) :
    request.Agree request' := by
  obtain ⟨body, wellFormed, read⟩ := cacheable.accepted request isAsked
  obtain ⟨body', wellFormed', read'⟩ := cacheable.accepted request' isAsked'
  have formed := Request.wellFormed_of_ofBody wellFormed read
  have formed' := Request.wellFormed_of_ofBody wellFormed' read'
  -- From the hash to the text, to the form, to the fields: each decides the next.
  have text := cacheable.hashApart request request' isAsked isAsked' hash
  have form := Json.text_injective formed.canonicalForm.printable formed'.canonicalForm.printable
    text
  exact formed.agree_of_canonicalForm_eq formed' form

/-- Under the fingerprint of a request, a function that may be cached gives its result for this
request and nothing else. -/
theorem Cacheable.gives_iff (request : Request) (response : Response) (isAsked : asked request) :
    Gives asked f request.fingerprint.hash response ↔ f request = .ok response := by
  constructor
  · rintro ⟨other, isAsked', hash, given⟩
    rw [← given]
    exact cacheable.eqOfAgree request other isAsked isAsked'
      (cacheable.agree isAsked isAsked' hash.symm)
  · intro given
    exact ⟨request, isAsked, rfl, given⟩

theorem Cacheable.proper (lossless : ∀ request response, asked request →
      f request = .ok response → response.toJson.Lossless Binary64.readScaled) :
    Proper (Gives asked f) := by
  rintro _ response ⟨request, isAsked, -, given⟩
  exact ⟨cacheable.wellFormed request response isAsked given,
    lossless request response isAsked given⟩

end Cacheable

/-- In front of a function that may be cached, every call is answered as it would be without a cache.
This holds over the cache in process, whatever its capacity and its cleanup interval, from an empty
table. If the numbers of the function's responses are read from their texts as themselves, it holds
over every store that remembers, whatever fails and whatever is forgotten, from any state of the cache,
when the documents behind its prefix are of that function, which they stay. -/
theorem run_transparent {asked : Request → Prop} {f : Request → Except ε Response}
    (cacheable : Cacheable asked f) (wrap : Error → ε) {calls : List (Call ε)}
    (computes : ∀ call ∈ calls, call.Computes asked f) (config : Config) :
    (∀ (settings : Config) (interval : Duration) (mono : Instant),
      List.Forall₂ (Call.AnsweredBy f) calls
        ((run ⟨config, LocalCache.backend⟩ wrap calls).run
          (LocalCache.fresh settings interval mono)).1) ∧
    ((∀ request response, asked request → f request = .ok response →
        response.toJson.Lossless Binary64.readScaled) →
      ∀ (σ : Type) (store : Store σ) (holds : σ → String → String → Prop)
      (elsewhere : String → String → Prop), store.Remembers holds elsewhere →
      ∀ (cache : SharedCache) (state : σ),
      (∀ key text, elsewhere (cache.store.keyPrefix ++ key) text →
        IsDocument (Gives asked f) key text) →
      (∀ key text, holds state (cache.store.keyPrefix ++ key) text →
        IsDocument (Gives asked f) key text) →
      List.Forall₂ (Call.AnsweredBy f) calls
        ((run ⟨config, SharedCache.backend store⟩ wrap calls).run (cache, state)).1 ∧
      ∀ key text,
        holds ((run ⟨config, SharedCache.backend store⟩ wrap calls).run (cache, state)).2.2
          (cache.store.keyPrefix ++ key) text → IsDocument (Gives asked f) key text) := by
  constructor
  · -- In process: the table is empty at the start, and no entry gets in that was not written.
    intro settings interval mono
    have faithful : (Manager.mk config LocalCache.backend).backend.Faithful (Gives asked f) _ :=
      LocalCache.faithful_backend (Gives asked f)
    have empty : (LocalCache.fresh settings interval mono).Filled (Gives asked f) :=
      LocalCache.filled_fresh settings interval mono
    exact (forall₂_run faithful cacheable.gives_iff wrap computes empty).1
  · -- In a shared store: whatever is behind the prefix is a document of the function at the start.
    intro lossless σ store holds elsewhere remembers cache state others documents
    have faithful : (Manager.mk config (SharedCache.backend store)).backend.Faithful
        (Gives asked f) (SharedCache.Filled holds cache.store.keyPrefix (Gives asked f)) :=
      SharedCache.faithful_backend remembers others (cacheable.proper lossless)
    have filled : SharedCache.Filled holds cache.store.keyPrefix (Gives asked f) (cache, state) :=
      ⟨rfl, documents⟩
    obtain ⟨answered, kept⟩ := forall₂_run faithful cacheable.gives_iff wrap computes filled
    exact ⟨answered, kept.documents⟩

/-- The chat requests, with and without a stream. -/
def IsChat (request : Request) : Prop := ∃ stream, request = Request.chatRequest stream

/-- Says the name of the model to whoever says anything. -/
def sayModel (request : Request) : Except String Response :=
  if request.messages.isEmpty then .error "no messages" else .ok (.ofText request.model)

/-- Two requests of one fingerprint are asked, one of them again after everything was removed. -/
def chatCalls : List (Call String) :=
  [.ask ⟨0, 0⟩ (Request.chatRequest false) (.ok (.ofText "small")),
    .look ⟨5, 6⟩ (Request.chatRequest true), .delete ⟨5, 7⟩ "other",
    .ask ⟨3, 8⟩ (Request.chatRequest true) (.ok (.ofText "small")), .clear ⟨9, 9⟩,
    .keep ⟨9, 9⟩ (Request.chatRequest true) (.ofText "small"),
    .ask ⟨9, 9⟩ (Request.chatRequest false) (.ok (.ofText "small"))]

theorem sayModel_of_isChat {request : Request} (isChat : IsChat request) :
    sayModel request = .ok (.ofText "small") := by
  obtain ⟨stream, rfl⟩ := isChat
  rfl

theorem cacheable_sayModel : Cacheable IsChat sayModel := by
  constructor
  · rintro request ⟨stream, rfl⟩
    refine ⟨Request.chatBody stream, ?_, ?_⟩
    · cases stream <;> decide
    · cases stream <;> rfl
  · rintro request request' ⟨stream, rfl⟩ ⟨stream', rfl⟩ -
    have agree : (Request.chatRequest stream).Agree (Request.chatRequest stream') :=
      ⟨rfl, rfl, rfl, rfl, rfl, rfl, rfl⟩
    exact congrArg Json.text agree.canonicalForm_eq
  · intro request request' isChat isChat' _
    rw [sayModel_of_isChat isChat, sayModel_of_isChat isChat']
  · intro request response isChat ok
    rw [sayModel_of_isChat isChat] at ok
    cases ok
    exact Response.wellFormed_ofText "small"

/-- The answer to the first lookup is lost, what is kept behind it is evicted before it is looked for
again, and the lookup after that is refused. -/
def disturbances : List Keyspace.Disturbance :=
  [.delayed [] 2, .unanswered (.disconnected "broken pipe"), .delayed [] 5,
    .delayed [StoreConfig.defaultKeyPrefix ++ (Request.chatRequest true).fingerprint.hash] 3,
    .delayed [] 1, .refused (.disconnected "broken pipe")]

/-- Both kinds of cache, the shared one in a store that keeps its word and in one that is disturbed,
answer the chat calls as if there was no cache. -/
theorem run_chatCalls :
    Cacheable IsChat sayModel ∧
    List.Forall₂ (Call.AnsweredBy sayModel) chatCalls
      ((run ⟨{ Config.default with cacheStreaming := true }, LocalCache.backend⟩ (fun _ => "cache")
        chatCalls).run (LocalCache.fresh { Config.default with maxSize := some 1 } 4 0)).1 ∧
    List.Forall₂ (Call.AnsweredBy sayModel) chatCalls
      ((run ⟨{ Config.default with cacheStreaming := true },
        SharedCache.backend (Keyspace.store (Keyspace.Paging.ofSize 2))⟩ (fun _ => "cache")
        chatCalls).run
        (⟨.default, .ofUrl "redis://localhost", false, none, 0, 0, 0⟩, Keyspace.empty 0)).1 ∧
    List.Forall₂ (Call.AnsweredBy sayModel) chatCalls
      ((run ⟨{ Config.default with cacheStreaming := true },
        SharedCache.backend (Keyspace.disturbed (Keyspace.Paging.ofSize 2))⟩ (fun _ => "cache")
        chatCalls).run
        (⟨.default, .ofUrl "redis://localhost", false, none, 0, 0, 0⟩,
          (Keyspace.empty 0, disturbances))).1 := by
  have computes : ∀ call ∈ chatCalls, call.Computes IsChat sayModel := by
    simp [chatCalls, Call.Computes, IsChat, sayModel, Request.chatRequest]
  have transparent := run_transparent cacheable_sayModel (fun _ => "cache") computes
    { Config.default with cacheStreaming := true }
  have lossless : ∀ request response, IsChat request → sayModel request = .ok response →
      response.toJson.Lossless Binary64.readScaled := by
    intro request response isChat ok
    rw [sayModel_of_isChat isChat] at ok
    cases ok
    exact Response.lossless_ofText _ "small"
  refine ⟨cacheable_sayModel, transparent.1 _ _ _, ?_, ?_⟩
  · refine (transparent.2 lossless Keyspace _ _ _
      (Keyspace.store_remembers (Keyspace.Paging.ofSize 2)) _ _ ?_ ?_).1
    · exact fun _ _ impossible => impossible.elim
    · rintro key text ⟨stored, mem, -⟩
      cases mem
  · refine (transparent.2 lossless (Keyspace × List Keyspace.Disturbance) _ _ _
      (Keyspace.disturbed_remembers (Keyspace.Paging.ofSize 2)) _ _ ?_ ?_).1
    · exact fun _ _ impossible => impossible.elim
    · rintro key text ⟨stored, mem, -⟩
      cases mem

end CompletionCache.Manager
