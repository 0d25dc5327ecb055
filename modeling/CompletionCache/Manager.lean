import CompletionCache.Backend.Basic
import CompletionCache.Eligibility
import CompletionCache.Fingerprint

/-!
# Caching by request

A `Manager` puts requests in front of a backend: it leaves out those that are not eligible, keeps
responses under the fingerprint of their request, and never returns an entry that has expired,
whatever the backend returns. `Manager.getOrCompute` answers from the cache or else computes and
keeps the result.
-/

set_option autoImplicit false

namespace CompletionCache

/-- A valid config in front of a backend. -/
structure Manager (σ : Type) where
  config : Config
  backend : Backend σ

namespace Manager

variable {σ : Type}

/-- The manager of a backend; the config has to be valid. -/
def create (config : Config) (backend : Backend σ) : Result (Manager σ) := do
  config.validate
  return ⟨config, backend⟩

/-- The response kept for a request, if the request is eligible and the response has not expired. -/
def getResponse (manager : Manager σ) (clocks : Clocks) (request : Request) :
    Action σ (Option Response) := do
  if manager.config.admits request then
    match ← manager.backend.get clocks request.fingerprint.hash with
    | some entry => return if entry.isExpiredAt clocks.wall then none else some entry.response
    | none => return none
  else return none

/-- Keeps the response to a request, if the request is eligible. -/
def cacheResponse (manager : Manager σ) (clocks : Clocks) (request : Request)
    (response : Response) : Action σ Unit := do
  if manager.config.admits request then
    manager.backend.set clocks request.fingerprint.hash response request.model response.totalTokens

/-- The outcome of a call that may compute: what it returns, and whether it computed. -/
structure Outcome (ε : Type) where
  result : Except ε Response
  computed : Bool

/-- The response kept for a request, or else the one that `compute` gives, which is kept when the
computation has `ended`. A failure of the computation is returned as it is and nothing is kept; a
failure of the backend is returned through `wrap`. -/
def getOrComputeUntil {ε : Type} (manager : Manager σ) (clocks ended : Clocks) (request : Request)
    (wrap : Error → ε) (compute : Except ε Response) : StateM σ (Outcome ε) := do
  match ← (manager.getResponse clocks request).run with
  | .error error => return ⟨.error (wrap error), false⟩
  | .ok (some response) => return ⟨.ok response, false⟩
  | .ok none =>
    match compute with
    | .error failure => return ⟨.error failure, true⟩
    | .ok response =>
      match ← (manager.cacheResponse ended request response).run with
      | .error error => return ⟨.error (wrap error), true⟩
      | .ok () => return ⟨.ok response, true⟩

/-- The response kept for a request, or else the one of a computation that takes no time. -/
def getOrCompute {ε : Type} (manager : Manager σ) (clocks : Clocks) (request : Request)
    (wrap : Error → ε) (compute : Except ε Response) : StateM σ (Outcome ε) :=
  manager.getOrComputeUntil clocks clocks request wrap compute

end Manager

end CompletionCache
