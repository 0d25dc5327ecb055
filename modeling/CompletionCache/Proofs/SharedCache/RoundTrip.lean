import CompletionCache.Proofs.Entry.ReadBack
import CompletionCache.Proofs.SharedCache.Exchanges
import CompletionCache.Proofs.SharedCache.Kept

/-!
# From one cache to another

A write that succeeds has put the document of an entry into its store (`asked_put_of_set`). Whatever that
store is, if another cache with the same prefix gets the text back unchanged, it finds what was written,
and it misses exactly when the document is nested too deeply for the reader (`get_finds_written_iff`).
The two caches may have their own settings and clocks; only the text passes between them.
-/

set_option autoImplicit false

namespace CompletionCache.SharedCache

variable {σ τ α : Type} {store : Store σ} {cache : SharedCache} {state : σ} {clocks : Clocks}
  {key : String} {response : Response} {model : String} {tokens : UInt64}

/-! ## What passes -/

/-- What passes between a cache and its store during an operation. -/
def passing (store : Store σ) (state : SharedCache × σ) (event : Event) : List Exchange :=
  ((backend store.recorded).step (state.1, state.2, []) event).2.2

/-- The text that is put under a key comes back unchanged when the key is looked up. -/
def Returned (puts gets : List Exchange) : Prop :=
  ∀ key text seconds reply answer, .asked (.put key text seconds) (.ok reply) ∈ puts →
    .asked (.get key) answer ∈ gets → answer = .ok (.text text)

/-! ## Writes -/

/-- A write that is tried with success puts the document, and the store takes it. -/
theorem asked_put_of_trySet (record : List Exchange)
    (wrote : ((trySet store clocks key response model tokens).run.run (cache, state)).1 = .ok ()) :
    ∃ cache' state' exchanges reply,
      (trySet store.recorded clocks key response model tokens).run.run (cache, state, record) =
        (.ok (), cache', state', record ++ exchanges) ∧
      .asked (.put (cache.storeKey key) (cache.document clocks.wall key response model tokens).text
        cache.config.ttl) (.ok reply) ∈ exchanges := by
  obtain ⟨result, cache', state', exchanges, ran, ranRecorded, -, answered⟩ :=
    mirrors_tell store clocks.mono (.put (cache.storeKey key)
      (cache.document clocks.wall key response model tokens).text cache.config.ttl) Reply.readDone
      cache state record rfl
  rw [trySet, run_bind_of_ok (run_current _)] at wrote ⊢
  have done : result = .ok () := (congrArg Prod.fst ran).symm.trans wrote
  obtain ⟨reply, mem, -⟩ := (answered ()).1 done
  subst done
  exact ⟨cache', state', exchanges, reply, ranRecorded, mem⟩

/-- What passes during a write that succeeds has the put of the document in it, whatever is done to make
room. -/
theorem asked_put_of_set
    (wrote : ((trySet store clocks key response model tokens).run.run (cache, state)).1 = .ok ()) :
    ∃ reply, .asked (.put (cache.storeKey key)
        (cache.document clocks.wall key response model tokens).text cache.config.ttl) (.ok reply) ∈
      passing store (cache, state) ⟨clocks, .set key response model tokens⟩ := by
  obtain ⟨cache', state', exchanges, reply, ran, mem⟩ := asked_put_of_trySet [] wrote
  refine ⟨reply, ?_⟩
  rw [passing, step_set, run_set, ran]
  dsimp only
  cases cache'.config.capacity? with
  | none => exact mem
  | some maxSize =>
    -- Making room only adds to what has passed.
    have mirrors : Mirrors cache'.store (tryMakeRoom store.recorded clocks.mono maxSize).run
        (tryMakeRoom store clocks.mono maxSize).run (Within Silent) := mirrors_tryMakeRoom _ _
    obtain ⟨_, _, _, others, -, ranRoom, -⟩ :=
      mirrors { cache' with sets := cache'.sets + 1 } state' exchanges rfl
    dsimp only
    rw [List.nil_append, ranRoom]
    exact List.mem_append_left _ mem

/-! ## Lookups -/

/-- A command changes the state of the store as its answer says, and the cache not at all. -/
theorem exists_run_send (store : Store σ) (cache : SharedCache) (state : σ) (command : Command)
    (read : Reply → Except CommandFault α) :
    ∃ result, (send store command read).run.run (cache, state) =
      (result, cache, ((store.answer command).run state).2) := by
  rw [send, run_bind_of_ok (run_onStore _ _), orFault_bind]
  cases ((store.answer command).run state).1 >>= read with
  | error fault => exact ⟨_, rfl⟩
  | ok value => exact ⟨_, rfl⟩

/-- A lookup of a connected cache asks for its key and does nothing else to the store: to read a document
touches neither the cache nor the store. -/
theorem snd_run_tryGet (connected : cache.isConnected = true) (now : Instant) (key : String) :
    ((tryGet store now key).run.run (cache, state)).2 =
      (cache, ((store.answer (.get (cache.storeKey key))).run state).2) := by
  have idle := run_connect_of_connected store state connected now
  obtain ⟨result, ran⟩ :=
    exists_run_send store cache state (.get (cache.storeKey key)) Reply.readOptionalText
  have asked : (do
      connect store now
      send store (.get ((← current).storeKey key)) Reply.readOptionalText :
        Attempting σ (Option String)).run.run (cache, state) =
      (result, cache, ((store.answer (.get (cache.storeKey key))).run state).2) := by
    rw [run_bind_of_ok idle, run_bind_of_ok (run_current _), ran]
  rw [tryGet_eq, ExceptT.run_bind, StateT.run_bind, asked]
  rcases result with fault | _ | text
  · rfl
  · rfl
  · change ((some <$> readEntry text : Attempting σ _).run.run _).2 = _
    rw [ExceptT.run_map, StateT.run_map, run_readEntry]
    rfl

/-- While a connected cache looks a key up, nothing passes but one command and its answer. -/
theorem passing_get (connected : cache.isConnected = true) :
    passing store (cache, state) ⟨clocks, .get key⟩ =
      [.asked (.get (cache.storeKey key)) ((store.answer (.get (cache.storeKey key))).run state).1] := by
  rw [passing, step_get, run_get, snd_run_tryGet connected]
  rfl

/-- A lookup finds an entry exactly when it was fetched meanwhile and has not expired. -/
theorem get_eq_some_iff (entry : Entry) :
    ((get store clocks key).run (cache, state)).1 = some entry ↔
      Hit cache.store.keyPrefix key clocks.wall (passing store (cache, state) ⟨clocks, .get key⟩)
        entry := by
  have mirrors : Mirrors cache.store (get store.recorded clocks key) (get store clocks key) _ :=
    mirrors_get clocks key
  obtain ⟨found, _, _, exchanges, ran, ranRecorded, -, hits⟩ := mirrors cache state [] rfl
  rw [passing, step_get, ranRecorded, ran]
  exact hits entry

/-- A text that comes back and writes no entry is a miss. -/
theorem get_eq_none_of_unreadable {text : String}
    (answers : ∀ answer, .asked (.get (cache.storeKey key)) answer ∈
      passing store (cache, state) ⟨clocks, .get key⟩ → answer = .ok (.text text))
    (unreadable : Entry.ofText? text = none) :
    ((get store clocks key).run (cache, state)).1 = none := by
  rw [Option.eq_none_iff_forall_ne_some]
  intro entry found
  obtain ⟨⟨other, fetched, read⟩, -⟩ := (get_eq_some_iff entry).1 found
  cases answers _ fetched
  rw [unreadable] at read
  cases read

/-! ## Round trips -/

section RoundTrip

variable {writers : Store σ} {readers : Store τ} {writer reader : SharedCache} {held : τ}
  {later : Clocks} (samePrefix : reader.store.keyPrefix = writer.store.keyPrefix)
  (wellFormed : response.WellFormed)
  (wrote : ((trySet writers clocks key response model tokens).run.run (writer, state)).1 = .ok ())
  (returned : Returned (passing writers (writer, state) ⟨clocks, .set key response model tokens⟩)
    (passing readers (reader, held) ⟨later, .get key⟩))
  (lossless : (writer.document clocks.wall key response model tokens).Lossless Binary64.readScaled)

include samePrefix wrote returned

/-- The only text that comes back is that of the document. -/
theorem answer_eq_document {answer : Except CommandFault Reply}
    (asked : .asked (.get (reader.storeKey key)) answer ∈
      passing readers (reader, held) ⟨later, .get key⟩) :
    answer = .ok (.text (writer.document clocks.wall key response model tokens).text) := by
  obtain ⟨reply, put⟩ := asked_put_of_set wrote
  rw [storeKey, samePrefix] at asked
  exact returned _ _ _ _ _ put asked

include wellFormed lossless

/-- A document that is nested too deeply is a miss. -/
theorem get_eq_none_of_deep
    (deep : Json.maxNesting < (writer.document clocks.wall key response model tokens).nesting) :
    ((get readers later key).run (reader, held)).1 = none := by
  exact get_eq_none_of_unreadable
    (fun _ asked => answer_eq_document samePrefix wrote returned asked)
    (Entry.ofText?_of_deep wellFormed lossless deep)

/-- A document that is not nested too deeply is read, and its entry is found as long as it lives. -/
theorem get_eq_some_of_shallow
    (early : clocks.wall + writer.config.ttlDuration < (2 ^ 53 * nanosPerSecond : Nat))
    (asked : ∃ answer, .asked (.get (reader.storeKey key)) answer ∈
      passing readers (reader, held) ⟨later, .get key⟩)
    (alive : ∀ entry, Fetched reader.store.keyPrefix key entry
      (passing readers (reader, held) ⟨later, .get key⟩) → entry.isExpiredAt later.wall = false)
    (shallow : (writer.document clocks.wall key response model tokens).nesting ≤ Json.maxNesting) :
    ∃ entry, ((get readers later key).run (reader, held)).1 = some entry ∧
      entry.key = key ∧ entry.response = response ∧ entry.model = model ∧
        entry.tokens = tokens := by
  obtain ⟨answer, asked⟩ := asked
  obtain rfl := answer_eq_document samePrefix wrote returned asked
  have legible := Entry.legible_create wellFormed early lossless shallow
  obtain ⟨createdAt, expiresAt, read, -⟩ := legible.exists_ofText?
  have fetched : Fetched reader.store.keyPrefix key _
      (passing readers (reader, held) ⟨later, .get key⟩) :=
    ⟨_, asked, read⟩
  exact ⟨_, (get_eq_some_iff _).2 ⟨fetched, alive _ fetched⟩, rfl, rfl, rfl, rfl⟩

/-- What one cache has written into a store, another one with the same prefix finds if the store returns
the text unchanged and what is read of it has not expired: the same key, response, model and tokens. This
is so exactly if the document is not nested too deeply; otherwise the lookup misses. The numbers of the
document are to be read from their texts as themselves. -/
theorem get_finds_written_iff
    (early : clocks.wall + writer.config.ttlDuration < (2 ^ 53 * nanosPerSecond : Nat))
    (asked : ∃ answer, .asked (.get (reader.storeKey key)) answer ∈
      passing readers (reader, held) ⟨later, .get key⟩)
    (alive : ∀ entry, Fetched reader.store.keyPrefix key entry
      (passing readers (reader, held) ⟨later, .get key⟩) → entry.isExpiredAt later.wall = false) :
    ((∃ entry, (backend readers).answer (reader, held) ⟨later, .get key⟩ =
          .ok (.found (some entry)) ∧
        entry.key = key ∧ entry.response = response ∧ entry.model = model ∧
          entry.tokens = tokens) ↔
      (writer.document clocks.wall key response model tokens).nesting ≤ Json.maxNesting) ∧
    (Json.maxNesting < (writer.document clocks.wall key response model tokens).nesting →
      (backend readers).answer (reader, held) ⟨later, .get key⟩ = .ok (.found none)) := by
  have misses := get_eq_none_of_deep samePrefix wellFormed wrote returned lossless
  have finds := get_eq_some_of_shallow samePrefix wellFormed wrote returned lossless early asked alive
  rw [answer_get]
  refine ⟨⟨?_, ?_⟩, ?_⟩
  · rintro ⟨entry, found, -⟩
    by_contra deep
    rw [misses (Nat.lt_of_not_le deep)] at found
    cases found
  · intro shallow
    obtain ⟨entry, found, same⟩ := finds shallow
    exact ⟨entry, by rw [found], same⟩
  · intro deep
    rw [misses deep]

end RoundTrip

/-- A cache without a capacity. -/
def writingCache : SharedCache :=
  ⟨{ Config.default with ttl := 60 }, .ofUrl "redis://localhost", false, none, 0, 0, 0⟩

/-- A cache with the same prefix at another address, which is in use. -/
def readingCache : SharedCache :=
  ⟨{ Config.default with ttl := 5, maxSize := some 1 }, .ofUrl "redis://replica", true, none, 3, 4, 5⟩

/-- What the first cache writes. -/
def writing : Event := ⟨⟨0, 0⟩, .set "c" (.ofText "text") "m" 3⟩

/-- What the second cache looks up a second later. -/
def reading : Event := ⟨⟨nanosPerSecond, 7⟩, .get "c"⟩

/-- The store a second after the write. -/
def writtenBefore : Keyspace :=
  ((backend (Keyspace.store .single)).step (writingCache, .empty 0) writing).2.showing nanosPerSecond

/-- What one cache writes is found by the other one. -/
theorem get_finds_written_elsewhere :
    ((trySet (Keyspace.store .single) ⟨0, 0⟩ "c" (.ofText "text") "m" 3).run.run
      (writingCache, .empty 0)).1 = .ok () ∧
    ∃ entry, (backend (Keyspace.store .single)).answer (readingCache, writtenBefore) reading =
        .ok (.found (some entry)) ∧
      entry.key = "c" ∧ entry.response = .ofText "text" ∧ entry.model = "m" ∧ entry.tokens = 3 := by
  have wrote : ((trySet (Keyspace.store .single) ⟨0, 0⟩ "c" (.ofText "text") "m" 3).run.run
      (writingCache, .empty 0)).1 = .ok () := rfl
  have samePrefix : readingCache.store.keyPrefix = writingCache.store.keyPrefix := rfl
  have place : readingCache.store.keyPrefix ++ "c" = "cache:c" := rfl
  have wellFormed : (Response.ofText "text").WellFormed := Response.wellFormed_ofText _
  have early : (0 : Instant) + writingCache.config.ttlDuration < (2 ^ 53 * nanosPerSecond : Nat) := by
    decide
  have shallow : (writingCache.document 0 "c" (.ofText "text") "m" 3).nesting ≤ Json.maxNesting := by
    rw [document, Entry.nesting_toJson]
    exact Nat.le_of_ble_eq_true rfl
  have lossless : (writingCache.document 0 "c" (.ofText "text") "m" 3).Lossless
      Binary64.readScaled := by decide +kernel
  have legible : (Entry.create 0 "c" (.ofText "text") "m" 3 writingCache.config.ttlDuration).Legible :=
    Entry.legible_create wellFormed early lossless shallow
  have created : (Entry.create 0 "c" (.ofText "text") "m" 3
      writingCache.config.ttlDuration).createdAt = (0 * nanosPerSecond : Nat) := rfl
  have expires : (Entry.create 0 "c" (.ofText "text") "m" 3
      writingCache.config.ttlDuration).expiresAt = (60 * nanosPerSecond : Nat) := by decide
  -- Its instants are whole seconds, so the entry is read back as it is.
  have parsed : Entry.ofText? (writingCache.document 0 "c" (.ofText "text") "m" 3).text =
      some (Entry.create 0 "c" (.ofText "text") "m" 3 writingCache.config.ttlDuration) :=
    legible.ofText?_of_whole created expires
  -- One put passes on one side and one lookup on the other, both with the text of the document.
  have puts : passing (Keyspace.store .single) (writingCache, .empty 0) writing =
      [.dialled .connected,
        .asked (.put "cache:c" (writingCache.document 0 "c" (.ofText "text") "m" 3).text 60)
          (.ok (.text "OK"))] := rfl
  have gets : passing (Keyspace.store .single) (readingCache, writtenBefore) reading =
      [.asked (.get "cache:c")
        (.ok (.text (writingCache.document 0 "c" (.ofText "text") "m" 3).text))] := by
    rw [reading, passing_get rfl]
    rfl
  generalize (writingCache.document 0 "c" (.ofText "text") "m" 3).text = text at puts gets parsed
  have returned : Returned (passing (Keyspace.store .single) (writingCache, .empty 0) writing)
      (passing (Keyspace.store .single) (readingCache, writtenBefore) reading) := by
    rw [puts, gets]
    simp +contextual [Returned]
  have asked : ∃ answer, .asked (.get (readingCache.storeKey "c")) answer ∈
      passing (Keyspace.store .single) (readingCache, writtenBefore) reading := by
    rw [gets, storeKey, place]
    exact ⟨_, List.mem_singleton_self _⟩
  have alive : ∀ entry, Fetched readingCache.store.keyPrefix "c" entry
      (passing (Keyspace.store .single) (readingCache, writtenBefore) reading) →
      entry.isExpiredAt nanosPerSecond = false := by
    rw [gets]
    rintro entry ⟨other, fetched, read⟩
    obtain ⟨-, answered⟩ := Exchange.asked.inj (List.mem_singleton.1 fetched)
    cases answered
    obtain rfl := Option.some.inj (parsed.symm.trans read)
    decide
  have round :=
    (get_finds_written_iff samePrefix wellFormed wrote returned lossless early asked alive).1
  exact ⟨wrote, round.2 shallow⟩

end CompletionCache.SharedCache
