import CompletionCache.Store.Keyspace

/-!
# Stores that remember

A store remembers when the texts under its keys come from what was put there, here or elsewhere. It
may refuse to connect, fail any command, answer anything to the others, and forget texts whenever it
likes (`Store.Remembers`). The store that keeps its word remembers (`Keyspace.store_remembers`), and
so it does when connections are refused, answers are lost, keys are evicted and time passes
(`Keyspace.disturbed_remembers`).
-/

set_option autoImplicit false

namespace CompletionCache

/-- The texts of a store come from somewhere: behind an attempt to connect or a command it holds
what it held before, what was put there `elsewhere`, or what the command puts; and a text that it
returns is one that it holds or that was put there elsewhere. -/
structure Store.Remembers {σ : Type} (store : Store σ) (holds : σ → String → String → Prop)
    (elsewhere : String → String → Prop) : Prop where
  connect : ∀ (timeout : Duration) {state : σ} {key text : String},
    holds ((store.connect timeout).run state).2 key text → holds state key text ∨ elsewhere key text
  answer : ∀ (command : Command) {state : σ} {key text : String},
    holds ((store.answer command).run state).2 key text →
      holds state key text ∨ elsewhere key text ∨ ∃ seconds, command = .put key text seconds
  get : ∀ {key : String} {state : σ} {text : String},
    ((store.answer (.get key)).run state).1 = .ok (.text text) →
      holds state key text ∨ elsewhere key text

namespace Keyspace

/-! ## A store that keeps its word -/

/-- A text stands under a key, whether it has expired or not. -/
def Holds (space : Keyspace) (key text : String) : Prop :=
  ∃ stored, (key, stored) ∈ space.items ∧ stored.value = text

theorem Holds.of_subset {space after : Keyspace} {key text : String} (held : after.Holds key text)
    (subset : after.items ⊆ space.items) : space.Holds key text := by
  obtain ⟨stored, mem, value⟩ := held
  exact ⟨stored, subset mem, value⟩

theorem holds_of_find? {space : Keyspace} {key : String} {stored : Stored}
    (found : space.find? key = some stored) : space.Holds key stored.value := by
  rw [find?, Option.filter_eq_some_iff, List.lookup_eq_some_iff] at found
  obtain ⟨⟨before, behind, items, -⟩, -⟩ := found
  refine ⟨stored, ?_, rfl⟩
  rw [items]
  simp

theorem items_erase_subset (space : Keyspace) (key : String) :
    (space.erase key).items ⊆ space.items :=
  List.filter_sublist.subset

theorem items_deleteAll_subset (space : Keyspace) (keys : List String) :
    (space.deleteAll keys).2.items ⊆ space.items := by
  induction keys generalizing space with
  | nil => exact List.Subset.refl _
  | cons key keys ih =>
    exact List.Subset.trans (ih (space.erase key)) (space.items_erase_subset key)

/-- Behind a command there is nothing but what was there before and what the command puts. -/
theorem holds_answer {paging : Paging} {space : Keyspace} {command : Command} {key text : String}
    (held : (space.answer paging command).2.Holds key text) :
    space.Holds key text ∨ ∃ seconds, command = .put key text seconds := by
  -- Only a write brings a text in; expiry is a matter of the clock and takes nothing out.
  cases command with
  | put name value seconds =>
    obtain ⟨stored, mem, same⟩ := held
    rcases List.mem_cons.1 mem with new | old
    · cases new
      cases same
      exact .inr ⟨seconds, rfl⟩
    · exact .inl ⟨stored, space.items_erase_subset name old, same⟩
  | delete names => exact .inl (held.of_subset (space.items_deleteAll_subset names))
  | get name => exact .inl held
  | timeToLive name => exact .inl held
  | scan cursor pattern count => exact .inl held
  | ping => exact .inl held

theorem holds_of_answer_get {paging : Paging} {space : Keyspace} {key text : String}
    (answered : (space.answer paging (.get key)).1 = .text text) : space.Holds key text := by
  rw [answer] at answered
  cases found : space.find? key with
  | none =>
    rw [found] at answered
    cases answered
  | some stored =>
    rw [found] at answered
    cases answered
    exact holds_of_find? found

/-- The store that keeps its word remembers, and nothing is put there elsewhere. -/
theorem store_remembers (paging : Paging) :
    (store paging).Remembers Holds fun _ _ => False := by
  constructor
  · intro timeout space key text held
    exact .inl held
  · intro command space key text held
    rcases holds_answer held with before | put
    · exact .inl before
    · exact .inr (.inr put)
  · intro key space text answered
    have reply : (space.answer paging (.get key)).1 = .text text := Except.ok.inj answered
    exact .inl (holds_of_answer_get reply)

/-! ## A store that is disturbed -/

/-- What happens when a store is spoken to. -/
inductive Disturbance where
  /-- The store does nothing and fails. -/
  | refused (fault : CommandFault)
  /-- The store does what it is told, and its answer is lost. -/
  | unanswered (fault : CommandFault)
  /-- Keys are evicted and time passes before the store does what it is told. -/
  | delayed (evicted : List String) (time : Duration)

/-- The store behind an eviction and some time. -/
def afterDelay (space : Keyspace) (evicted : List String) (time : Duration) : Keyspace :=
  (space.deleteAll evicted).2.advance time

theorem Holds.of_afterDelay {space : Keyspace} {evicted : List String} {time : Duration}
    {key text : String} (held : (space.afterDelay evicted time).Holds key text) :
    space.Holds key text :=
  held.of_subset (space.items_deleteAll_subset evicted)

/-- An attempt to connect to a store that may be disturbed. -/
def connectUnder (space : Keyspace) : Option Disturbance → Attempt × Keyspace
  | none => (.connected, space)
  | some (.refused fault) => (.failed fault, space)
  | some (.unanswered _) => (.timedOut, space)
  | some (.delayed evicted time) => (.connected, space.afterDelay evicted time)

/-- A command to a store that may be disturbed. -/
def answerUnder (paging : Paging) (space : Keyspace) (command : Command) :
    Option Disturbance → Except CommandFault Reply × Keyspace
  | none => (.ok (space.answer paging command).1, (space.answer paging command).2)
  | some (.refused fault) => (.error fault, space)
  | some (.unanswered fault) => (.error fault, (space.answer paging command).2)
  | some (.delayed evicted time) =>
    (.ok ((space.afterDelay evicted time).answer paging command).1,
      ((space.afterDelay evicted time).answer paging command).2)

/-- The store that would keep its word, with the disturbances that are ahead of it. -/
def disturbed (paging : Paging) : Store (Keyspace × List Disturbance) where
  connect _ := modifyGet fun (space, ahead) =>
    let (attempt, after) := space.connectUnder ahead.head?
    (attempt, (after, ahead.tail))
  answer command := modifyGet fun (space, ahead) =>
    let (result, after) := space.answerUnder paging command ahead.head?
    (result, (after, ahead.tail))
  waited _ := 0

theorem holds_connectUnder {space : Keyspace} {disturbance : Option Disturbance}
    {key text : String} (held : (space.connectUnder disturbance).2.Holds key text) :
    space.Holds key text := by
  rcases disturbance with _ | ⟨fault⟩ | ⟨fault⟩ | ⟨evicted, time⟩
  · exact held
  · exact held
  · exact held
  · exact held.of_afterDelay

theorem holds_answerUnder {paging : Paging} {space : Keyspace} {command : Command}
    {disturbance : Option Disturbance} {key text : String}
    (held : (space.answerUnder paging command disturbance).2.Holds key text) :
    space.Holds key text ∨ ∃ seconds, command = .put key text seconds := by
  rcases disturbance with _ | ⟨fault⟩ | ⟨fault⟩ | ⟨evicted, time⟩
  · exact holds_answer held
  · exact .inl held
  · exact holds_answer held
  -- What the eviction left is part of what was there, and the command then adds to it.
  · rcases holds_answer held with before | put
    · exact .inl before.of_afterDelay
    · exact .inr put

theorem holds_of_answerUnder_get {paging : Paging} {space : Keyspace}
    {disturbance : Option Disturbance} {key text : String}
    (answered : (space.answerUnder paging (.get key) disturbance).1 = .ok (.text text)) :
    space.Holds key text := by
  rcases disturbance with _ | ⟨fault⟩ | ⟨fault⟩ | ⟨evicted, time⟩
  · exact holds_of_answer_get (Except.ok.inj answered)
  · cases answered
  · cases answered
  · exact (holds_of_answer_get (Except.ok.inj answered)).of_afterDelay

/-- However it is disturbed, the store remembers, and nothing is put there elsewhere. -/
theorem disturbed_remembers (paging : Paging) :
    (disturbed paging).Remembers (fun state => state.1.Holds) fun _ _ => False := by
  constructor
  · intro timeout state key text held
    exact .inl (holds_connectUnder held)
  · intro command state key text held
    rcases holds_answerUnder held with before | put
    · exact .inl before
    · exact .inr (.inr put)
  · intro key state text answered
    exact .inl (holds_of_answerUnder_get answered)

end Keyspace

end CompletionCache
