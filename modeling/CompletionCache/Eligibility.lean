import CompletionCache.Config.Basic
import CompletionCache.Request.Basic

/-!
# Which requests take part in caching

`Config.eligibility` says whether a request may be answered from the cache and have its answer kept,
and if not, for which reason. The first reason that applies is the one given.
-/

set_option autoImplicit false

namespace CompletionCache

/-- Whether a request takes part in caching, or why not. -/
inductive Eligibility where
  | eligible
  | disabled
  | excludedModel
  | streamingDisabled
  deriving DecidableEq

namespace Eligibility

/-- Whether the request takes part. -/
def isEligible : Eligibility → Bool
  | eligible => true
  | _ => false

/-- The word for an eligibility. -/
def name : Eligibility → String
  | eligible => "eligible"
  | disabled => "cache_disabled"
  | excludedModel => "model_excluded"
  | streamingDisabled => "streaming_not_cached"

end Eligibility

/-- Whether a request takes part in caching under a config. -/
def Config.eligibility (config : Config) (request : Request) : Eligibility :=
  if !config.enabled then .disabled
  else if config.isExcluded request.model then .excludedModel
  else if request.stream && !config.cacheStreaming then .streamingDisabled
  else .eligible

/-- Whether a request takes part in caching under a config. -/
def Config.admits (config : Config) (request : Request) : Bool :=
  (config.eligibility request).isEligible

end CompletionCache
