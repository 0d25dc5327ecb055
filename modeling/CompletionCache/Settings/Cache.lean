import CompletionCache.LocalCache
import CompletionCache.Settings.Basic
import CompletionCache.SharedCache

/-!
# The cache that settings describe

`Settings.build` makes the one cache that some settings ask for, if they are valid and the address
of a shared store leads somewhere.
-/

set_option autoImplicit false

namespace CompletionCache

/-- A cache of either kind. -/
inductive Cache where
  | inProcess (cache : LocalCache)
  | shared (cache : SharedCache)

namespace Cache

/-- Which kind of cache it is. -/
def kind : Cache → BackendKind
  | inProcess _ => .inProcess
  | shared _ => .shared

/-- The config of the cache. -/
def config : Cache → Config
  | inProcess cache => cache.config
  | shared cache => cache.config

/-- The health report of the cache, with no store in reach. -/
def health (cache : Cache) (clocks : Clocks) : HealthReport :=
  match cache with
  | inProcess cache => cache.health
  | shared cache => ((SharedCache.health (.unreachable Unit) clocks).run (cache, ())).1

end Cache

/-- The cache that settings ask for, made when the monotonic clock shows `mono`. -/
def Settings.build (settings : Settings) (mono : Instant) : Result Cache := do
  settings.validate
  match settings.backend with
  | .inProcess cleanupSeconds =>
    return .inProcess ((LocalCache.create settings.cache mono).withCleanupInterval
      (Duration.ofSeconds cleanupSeconds.toNat))
  | .shared store => return .shared (← SharedCache.create settings.cache store)

end CompletionCache
