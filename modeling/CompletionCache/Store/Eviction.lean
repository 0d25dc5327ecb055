/-!
# Which keys make room

A store tells no order of use, so a shared cache that is too large gives up the keys that are
closest to their expiry.
-/

set_option autoImplicit false

namespace CompletionCache.Eviction

/-- The reply to a question for the remaining time of a key that is not there. -/
def goneTtl : Int := -2

/-- The rank of a key by the reply to the question for its remaining time: the time in seconds, and of a
key without an expiry the greatest number that a reply can be. -/
def rank (ttl : Int) : Int := if ttl < 0 then 0x7FFFFFFFFFFFFFFF else ttl

/-- The keys to delete so that at most `maxSize` remain, the closest to expiry first; among equals
the first ones. Keys that are not there any more do not count. -/
def select (keyed : List (String × Int)) (maxSize : Nat) : List String :=
  let live := keyed.filter fun item => item.2 != goneTtl
  ((live.mergeSort fun a b => decide (rank a.2 ≤ rank b.2)).take (live.length - maxSize)).map (·.1)

end CompletionCache.Eviction
