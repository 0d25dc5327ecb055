import CompletionCache.Proofs.Backend.Faithful
import CompletionCache.Proofs.Entry.Document
import CompletionCache.Proofs.SharedCache.Attempt
import CompletionCache.Proofs.Store.Remembers

/-!
# The cache in a shared store is faithful

Over a store that remembers, whatever fails and whatever is forgotten, the cache is faithful, as long
as the documents behind its prefix come from responses that may be written (`faithful_backend`). A
lookup reads a document back as the entry it was made of, and a write puts nothing but a document.
-/

set_option autoImplicit false

namespace CompletionCache

/-- The text under a key is the document of an entry whose response may be written there. -/
def IsDocument (MayWrite : String → Response → Prop) (key text : String) : Prop :=
  ∃ entry : Entry, MayWrite key entry.response ∧ text = entry.toJson.text

/-- What may be written are well-formed responses whose numbers are read from their texts as
themselves. -/
def Proper (MayWrite : String → Response → Prop) : Prop :=
  ∀ key response, MayWrite key response →
    response.WellFormed ∧ response.toJson.Lossless Binary64.readScaled

theorem Reply.readOptionalText_eq_some {reply : Reply} {text : String}
    (ok : reply.readOptionalText = .ok (some text)) : reply = .text text := by
  cases reply with
  | text value =>
    cases ok
    rfl
  | _ => cases ok

namespace SharedCache

variable {σ : Type} {store : Store σ} {holds : σ → String → String → Prop}
  {elsewhere : String → String → Prop} {keyPrefix : String}
  {MayWrite : String → Response → Prop}

/-- The cache has a prefix, and every text that the store holds behind it is a document. -/
structure Filled (holds : σ → String → String → Prop) (keyPrefix : String)
    (MayWrite : String → Response → Prop) (state : SharedCache × σ) : Prop where
  address : state.1.store.keyPrefix = keyPrefix
  documents : ∀ key text, holds state.2 (keyPrefix ++ key) text → IsDocument MayWrite key text

/-- Whatever a command puts behind a prefix is a document. -/
def PutsDocuments (keyPrefix : String) (MayWrite : String → Response → Prop) (command : Command) :
    Prop :=
  ∀ key text seconds, command = .put (keyPrefix ++ key) text seconds → IsDocument MayWrite key text

theorem putsDocuments_put {key : String} {entry : Entry} (written : MayWrite key entry.response)
    (seconds : UInt64) :
    PutsDocuments keyPrefix MayWrite (.put (keyPrefix ++ key) entry.toJson.text seconds) := by
  intro other text _ same
  obtain ⟨keys, rfl, -⟩ := Command.put.inj same
  rw [← (String.append_right_inj keyPrefix).1 keys]
  exact ⟨entry, written, rfl⟩

theorem putsDocuments_of_ne_put {command : Command}
    (other : ∀ key text seconds, command ≠ .put key text seconds) :
    PutsDocuments keyPrefix MayWrite command :=
  fun _ _ _ put => absurd put (other _ _ _)

/-- An entry that is read from a document carries the response that the document was made of. -/
theorem ensures_readEntry_document {Inv : SharedCache × σ → Prop} (proper : Proper MayWrite)
    {key text : String} (document : IsDocument MayWrite key text) :
    Ensures Inv (readEntry text) fun read : Entry => MayWrite key read.response := by
  obtain ⟨entry, written, rfl⟩ := document
  obtain ⟨wellFormed, lossless⟩ := proper key _ written
  rw [readEntry]
  cases parsed : Entry.ofText? entry.toJson.text with
  | none => exact ensures_throw _
  | some read =>
    apply ensures_pure
    rw [Entry.response_of_ofText? wellFormed lossless parsed]
    exact written

section Store

variable (remembers : store.Remembers holds elsewhere)
  (others : ∀ key text, elsewhere (keyPrefix ++ key) text → IsDocument MayWrite key text)

include remembers others

theorem sustained_filled : Sustained store (PutsDocuments keyPrefix MayWrite)
    (Filled holds keyPrefix MayWrite) := by
  apply Maintained.sustained
  constructor
  · intro isConnected lastFailure cache state filled
    exact ⟨filled.address, filled.documents⟩
  · intro timeout cache state filled
    refine ⟨filled.address, ?_⟩
    intro key text held
    rcases remembers.connect timeout held with before | other
    · exact filled.documents key text before
    · exact others key text other
  · intro command puts cache state filled
    refine ⟨filled.address, ?_⟩
    intro key text held
    rcases remembers.answer command held with before | other | ⟨seconds, put⟩
    · exact filled.documents key text before
    · exact others key text other
    · exact puts key text seconds put

theorem ensures_fetch {cache : SharedCache} (address : cache.store.keyPrefix = keyPrefix)
    (key : String) :
    Ensures (Filled holds keyPrefix MayWrite)
      (send store (.get (cache.storeKey key)) Reply.readOptionalText) fun found =>
        ∀ text, found = some text → IsDocument MayWrite key text := by
  subst address
  apply ensures_send (sustained_filled remembers others)
  · exact putsDocuments_of_ne_put (by simp)
  · rintro cache' state reply _ filled answered read text rfl
    rw [Reply.readOptionalText_eq_some read] at answered
    rcases remembers.get answered with held | other
    · exact filled.documents key text held
    · exact others key text other

/-- Whatever an attempt to look up finds under a key may be written there. -/
theorem ensures_tryGet_document (proper : Proper MayWrite)
    (now : Instant) (key : String) :
    Ensures (Filled holds keyPrefix MayWrite) (tryGet store now key) fun found =>
      ∀ entry, found = some entry → MayWrite key entry.response := by
  rw [tryGet]
  refine ((sustained_filled remembers others).connect now).bind fun _ _ => ?_
  refine ensures_current.bind fun cache known => ?_
  obtain ⟨_, filled⟩ := known
  refine (ensures_fetch remembers others filled.address key).bind fun found document => ?_
  cases found with
  | none =>
    apply ensures_pure
    intro entry impossible
    cases impossible
  | some text =>
    refine (ensures_readEntry_document proper (document text rfl)).bind fun read written => ?_
    apply ensures_pure
    intro same found
    cases found
    exact written

theorem ensures_trySet_document (clocks : Clocks) {key : String} {response : Response}
    (written : MayWrite key response) (model : String) (tokens : UInt64) :
    Ensures (Filled holds keyPrefix MayWrite) (trySet store clocks key response model tokens)
      fun _ => True := by
  have sustained := sustained_filled remembers others
  rw [trySet]
  refine ensures_current.bind fun cache known => ?_
  obtain ⟨_, filled⟩ := known
  refine (sustained.connect clocks.mono).bind fun _ _ => ?_
  refine ensures_send sustained ?_ fun _ _ _ _ _ _ _ => trivial
  -- The key was made with the prefix before the connection, which leaves the settings alone.
  rw [storeKey, filled.address]
  apply putsDocuments_put
  exact written

/-! ## Operations -/

omit remembers others in
/-- The counts are none of the invariant's business. -/
theorem Filled.recount {state : SharedCache × σ} (filled : Filled holds keyPrefix MayWrite state)
    {cache : SharedCache} (address : cache.store = state.1.store) :
    Filled holds keyPrefix MayWrite (cache, state.2) :=
  ⟨address ▸ filled.address, filled.documents⟩

theorem Filled.get (proper : Proper MayWrite)
    {state : SharedCache × σ} (filled : Filled holds keyPrefix MayWrite state) (clocks : Clocks)
    (key : String) :
    Filled holds keyPrefix MayWrite ((get store clocks key).run state).2 ∧
      ∀ entry, ((get store clocks key).run state).1 = some entry → MayWrite key entry.response := by
  obtain ⟨kept, returns⟩ := ensures_tryGet_document remembers others proper clocks.mono key state filled
  rw [run_get]
  refine ⟨kept.recount (store_counted _ _), ?_⟩
  intro entry found
  exact returns _ (eq_ok_of_live_eq_some found) entry rfl

theorem Filled.set {state : SharedCache × σ} (filled : Filled holds keyPrefix MayWrite state)
    (clocks : Clocks) {key : String} {response : Response} (written : MayWrite key response)
    (model : String) (tokens : UInt64) :
    Filled holds keyPrefix MayWrite ((set store clocks key response model tokens).run state).2 := by
  have tried := ensures_trySet_document remembers others clocks written model tokens
  -- Nothing but the write itself puts a document, whatever is done to make room.
  apply (sustained_filled remembers others).set clocks filled tried fun kept => kept.recount rfl
  · exact fun _ => putsDocuments_of_ne_put (by simp)
  · exact fun _ _ _ => putsDocuments_of_ne_put (by simp)
  · exact fun _ => putsDocuments_of_ne_put (by simp)

theorem Filled.delete {state : SharedCache × σ} (filled : Filled holds keyPrefix MayWrite state)
    (clocks : Clocks) (key : String) :
    Filled holds keyPrefix MayWrite ((delete store clocks key).run state).2 :=
  (sustained_filled remembers others).delete clocks filled
    (fun _ => putsDocuments_of_ne_put (by simp)) key

theorem Filled.clear {state : SharedCache × σ} (filled : Filled holds keyPrefix MayWrite state)
    (clocks : Clocks) : Filled holds keyPrefix MayWrite ((clear store clocks).run state).2 := by
  obtain ⟨cache, after, ran, kept⟩ := (sustained_filled remembers others).clear clocks filled
    (fun _ _ _ => putsDocuments_of_ne_put (by simp)) (fun _ => putsDocuments_of_ne_put (by simp))
  rw [ran]
  exact kept.recount rfl

/-- Over a store that remembers, the cache is faithful, whatever goes wrong with the store. -/
theorem faithful_backend (proper : Proper MayWrite) :
    (backend store).Faithful MayWrite (Filled holds keyPrefix MayWrite) where
  get clocks key _ filled :=
    ⟨_, _, rfl, Filled.get remembers others proper filled clocks key⟩
  set clocks _ _ model tokens _ written filled :=
    ⟨_, rfl, Filled.set remembers others filled clocks written model tokens⟩
  delete clocks key _ filled := ⟨_, _, rfl, Filled.delete remembers others filled clocks key⟩
  clear clocks _ filled := ⟨_, rfl, Filled.clear remembers others filled clocks⟩

end Store

end SharedCache

end CompletionCache
