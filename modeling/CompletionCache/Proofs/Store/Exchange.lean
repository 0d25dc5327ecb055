import CompletionCache.Store.Command

/-!
# What passes between a cache and its store

An `Exchange` is one attempt to connect, with how it ended, or one command with its answer. The
store that is recorded does what the store does and keeps a list of all exchanges beside its state.
-/

set_option autoImplicit false

namespace CompletionCache

/-- What passes between a cache and its store. -/
inductive Exchange where
  | dialled (attempt : Attempt)
  | asked (command : Command) (answer : Except CommandFault Reply)

namespace Exchange

/-- Whether an exchange is an attempt to connect. -/
def isDial : Exchange → Bool
  | dialled _ => true
  | asked _ _ => false

/-- Whether an exchange looks a key up. -/
def isLookup : Exchange → Bool
  | asked (.get _) _ => true
  | _ => false

end Exchange

/-- The store with a record of what passes. -/
def Store.recorded {σ : Type} (store : Store σ) : Store (σ × List Exchange) where
  connect timeout := modifyGet fun (state, record) =>
    let (attempt, after) := (store.connect timeout).run state
    (attempt, (after, record ++ [.dialled attempt]))
  answer command := modifyGet fun (state, record) =>
    let (answer, after) := (store.answer command).run state
    (answer, (after, record ++ [.asked command answer]))
  waited state := store.waited state.1

section Recorded

variable {σ : Type} (store : Store σ) (state : σ) (record : List Exchange)

theorem Store.run_recorded_connect (timeout : Duration) :
    (store.recorded.connect timeout).run (state, record) =
      (((store.connect timeout).run state).1, ((store.connect timeout).run state).2,
        record ++ [.dialled ((store.connect timeout).run state).1]) := rfl

theorem Store.run_recorded_answer (command : Command) :
    (store.recorded.answer command).run (state, record) =
      (((store.answer command).run state).1, ((store.answer command).run state).2,
        record ++ [.asked command ((store.answer command).run state).1]) := rfl

end Recorded

end CompletionCache
