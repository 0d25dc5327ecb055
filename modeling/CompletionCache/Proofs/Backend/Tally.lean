import CompletionCache.Proofs.LocalCache.View

/-!
# What a backend counts

A `Tally` counts the lookups that found something, those that did not, and the writes that were taken. A
backend keeps one when a lookup counts what it returns, a write counts whether it was taken, a removal of
everything starts again, and no other operation counts anything (`Backend.Counting`). Then the tally
behind an operation is told by its answer and by whether a write was taken (`Backend.Counting.step`), and
two backends that answer lookups alike have counted the same of them (`Tally.SameLookups.behind`). The
cache in process keeps a tally of lookups (`LocalCache.counting_backend`).
-/

set_option autoImplicit false

namespace CompletionCache

/-- Lookups that found something, lookups that did not, and writes that were taken. -/
structure Tally where
  hits : Nat
  misses : Nat
  sets : Nat

namespace Tally

/-- Nothing counted. -/
def zero : Tally := ⟨0, 0, 0⟩

/-- The tally with one more lookup. -/
def looked (tally : Tally) (found : Bool) : Tally :=
  if found then { tally with hits := tally.hits + 1 }
  else { tally with misses := tally.misses + 1 }

/-- The tally with what was looked up, if anything was. -/
def lookedUp (tally : Tally) : Option Bool → Tally
  | some found => tally.looked found
  | none => tally

/-- The tally with one more write, if it was taken. -/
def wrote (tally : Tally) (taken : Bool) : Tally :=
  if taken then { tally with sets := tally.sets + 1 } else tally

/-- Whether an answer is something that was found. -/
def isHit : Result Answer → Bool
  | .ok (.found (some _)) => true
  | _ => false

/-- The tally behind an operation that was answered; a write counts if it was taken. -/
def behind (tally : Tally) (operation : Operation) (answer : Result Answer) (written : Bool) : Tally :=
  match operation with
  | .get _ => tally.looked (isHit answer)
  | .set _ _ _ _ => tally.wrote written
  | .clear => zero
  | _ => tally

/-- Two tallies of the same lookups. -/
structure SameLookups (tally other : Tally) : Prop where
  hits : tally.hits = other.hits
  misses : tally.misses = other.misses

/-- An operation that is answered alike, if it is a lookup, leaves tallies of the same lookups. -/
theorem SameLookups.behind {tally other : Tally} (same : SameLookups tally other)
    {operation : Operation} {answer answer' : Result Answer}
    (alike : ∀ key, operation = .get key → answer = answer') (written written' : Bool) :
    SameLookups (tally.behind operation answer written) (other.behind operation answer' written') := by
  have looked : ∀ found, SameLookups (tally.looked found) (other.looked found) := by
    intro found
    cases found with
    | true => exact ⟨congrArg (· + 1) same.hits, same.misses⟩
    | false => exact ⟨same.hits, congrArg (· + 1) same.misses⟩
  have wrote : ∀ (tally : Tally) (written : Bool), SameLookups (tally.wrote written) tally := by
    intro tally written
    cases written <;> exact ⟨rfl, rfl⟩
  cases operation with
  | get key =>
    rw [alike key rfl]
    exact looked _
  | set key response model tokens =>
    obtain ⟨hits, misses⟩ := wrote tally written
    obtain ⟨hits', misses'⟩ := wrote other written'
    exact ⟨hits.trans (same.hits.trans hits'.symm), misses.trans (same.misses.trans misses'.symm)⟩
  | clear => exact ⟨rfl, rfl⟩
  | delete key => exact same
  | stats => exact same
  | health => exact same

end Tally

/-- A backend counts what it returns. Whether a write was taken is told by what its state holds beside the
tally. -/
structure Backend.Counting {σ : Type} (backend : Backend σ) (tally : σ → Tally) (taken : σ → Bool) :
    Prop where
  get : ∀ (clocks : Clocks) (key : String) (state : σ), ∃ found after,
    (backend.get clocks key).run.run state = (.ok found, after) ∧
      (∀ entry, found = some entry → entry.isExpiredAt clocks.wall = false) ∧
      tally after = (tally state).looked found.isSome ∧ taken after = taken state
  set : ∀ (clocks : Clocks) (key : String) (response : Response) (model : String) (tokens : UInt64)
    (state : σ), ∃ written after,
    (backend.set clocks key response model tokens).run.run state = (.ok (), after) ∧
      tally after = (tally state).wrote written ∧ taken after = (taken state || written)
  delete : ∀ (clocks : Clocks) (key : String) (state : σ), ∃ existed after,
    (backend.delete clocks key).run.run state = (.ok existed, after) ∧ tally after = tally state
  clear : ∀ (clocks : Clocks) (state : σ), ∃ after,
    (backend.clear clocks).run.run state = (.ok (), after) ∧ tally after = .zero
  stats : ∀ (clocks : Clocks) (state : σ), ∃ stats after,
    (backend.stats clocks).run.run state = (.ok stats, after) ∧ tally after = tally state
  health : ∀ (clocks : Clocks) (state : σ), ∃ report after,
    (backend.health clocks).run state = (report, after) ∧ tally after = tally state

/-- The tally behind an operation is told by its answer, and by whether a write was taken. -/
theorem Backend.Counting.step {σ : Type} {backend : Backend σ} {tally : σ → Tally} {taken : σ → Bool}
    (counting : backend.Counting tally taken) (event : Event) {state : σ}
    (fresh : taken state = false) :
    tally (backend.step state event) =
      (tally state).behind event.operation (backend.answer state event)
        (taken (backend.step state event)) := by
  obtain ⟨clocks, operation⟩ := event
  cases operation with
  | get key =>
    obtain ⟨found, after, ran, -, tallied, -⟩ := counting.get clocks key state
    rw [Backend.step_get, Backend.answer_get, ran]
    cases found <;> exact tallied
  | set key response model tokens =>
    obtain ⟨written, after, ran, tallied, put⟩ :=
      counting.set clocks key response model tokens state
    rw [fresh, Bool.false_or] at put
    rw [Backend.step_set, ran, put]
    exact tallied
  | delete key =>
    obtain ⟨existed, after, ran, tallied⟩ := counting.delete clocks key state
    rw [Backend.step_delete, ran]
    exact tallied
  | clear =>
    obtain ⟨after, ran, tallied⟩ := counting.clear clocks state
    rw [Backend.step_clear, ran]
    exact tallied
  | stats =>
    obtain ⟨stats, after, ran, tallied⟩ := counting.stats clocks state
    rw [Backend.step_stats, ran]
    exact tallied
  | health =>
    obtain ⟨report, after, ran, tallied⟩ := counting.health clocks state
    rw [Backend.step_health, ran]
    exact tallied

namespace LocalCache

/-- What the cache in process has counted; it does not count writes. -/
def counters (cache : LocalCache) : Tally := ⟨cache.hits, cache.misses, 0⟩

theorem counters_sweep (cache : LocalCache) (clocks : Clocks) :
    (cache.sweep clocks).counters = cache.counters := by
  unfold sweep
  split <;> rfl

/-- A lookup counts what it returns, and it returns nothing that has expired. -/
theorem counters_get (cache : LocalCache) (clocks : Clocks) (key : String) :
    (cache.get clocks key).2.counters = cache.counters.looked (cache.get clocks key).1.isSome ∧
      ∀ entry, (cache.get clocks key).1 = some entry → entry.isExpiredAt clocks.wall = false := by
  rw [← cache.counters_sweep clocks]
  rcases cache.get_cases clocks key with
    ⟨-, result⟩ | ⟨lapsed, -, -, result⟩ | ⟨found, -, alive, result⟩
  · rw [result]
    exact ⟨rfl, nofun⟩
  · rw [result]
    exact ⟨rfl, nofun⟩
  · rw [result]
    refine ⟨rfl, ?_⟩
    intro entry same
    cases same
    exact alive

theorem counting_backend : backend.Counting counters fun _ => false where
  get clocks key cache :=
    ⟨_, _, rfl, (cache.counters_get clocks key).2, (cache.counters_get clocks key).1, rfl⟩
  set clocks _ _ _ _ cache := ⟨false, _, rfl, cache.counters_sweep clocks, rfl⟩
  delete _ _ _ := ⟨_, _, rfl, rfl⟩
  clear _ _ := ⟨_, rfl, rfl⟩
  stats _ _ := ⟨_, _, rfl, rfl⟩
  health _ _ := ⟨_, _, rfl, rfl⟩

end LocalCache

end CompletionCache
