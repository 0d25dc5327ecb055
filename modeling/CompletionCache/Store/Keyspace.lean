import CompletionCache.Config.Names
import CompletionCache.Store.Command
import CompletionCache.Store.Glob

/-!
# A store that keeps its word

A `Keyspace` holds values under keys, each with or without an expiry on a clock of its own.
`Keyspace.store` is the store that answers every command as it is meant. How a scan goes over the
keys is open: a `Paging` cuts them into pages, in any order and with repetitions. Keys and values are
texts, so a store that also holds keys in other encodings, and returns them as `Reply.binary`, is not
among these stores.
-/

set_option autoImplicit false

namespace CompletionCache

/-- A value in a store. -/
structure Stored where
  value : String
  expiry : Option Instant
  deriving DecidableEq

/-- Values under keys, at an instant of the store's clock. -/
structure Keyspace where
  items : List (String × Stored)
  now : Instant
  deriving DecidableEq

/-- Whether a value is there at an instant. -/
def Stored.isLiveAt (stored : Stored) (now : Instant) : Bool :=
  stored.expiry.all fun expiry => decide (now < expiry)

namespace Keyspace

/-- A store without keys. -/
def empty (now : Instant) : Keyspace := ⟨[], now⟩

/-- The value under a key. -/
def find? (space : Keyspace) (key : String) : Option Stored :=
  (space.items.lookup key).filter fun stored => stored.isLiveAt space.now

/-- Whether a key is there. -/
def contains (space : Keyspace) (key : String) : Bool := (space.find? key).isSome

/-- The keys that are there, sorted. -/
def keys (space : Keyspace) : List String :=
  (NameSet.ofList ((space.items.map (·.1)).filter space.contains)).names

/-- The store without a key. -/
def erase (space : Keyspace) (key : String) : Keyspace :=
  { space with items := space.items.filter fun item => item.1 != key }

/-- The store with a value under a key. -/
def put (space : Keyspace) (key : String) (stored : Stored) : Keyspace :=
  { space with items := (key, stored) :: (space.erase key).items }

/-- The store a while later. -/
def advance (space : Keyspace) (time : Int) : Keyspace := { space with now := space.now + time }

/-- A remaining time as it is reported: in whole seconds, a half counting as one, of milliseconds
that have 64 bits with a sign. -/
def reported (left : Duration) : Nat := (min left.toMillis 0x7FFFFFFFFFFFFFFF + 500) / 1000

/-- The remaining time of a key in seconds; `-1` for a key without an expiry and `-2` for one that is
not there. -/
def timeToLive (space : Keyspace) (key : String) : Int :=
  match space.find? key with
  | none => -2
  | some ⟨_, none⟩ => -1
  | some ⟨_, some expiry⟩ => reported (Instant.remaining expiry space.now)

/-! ## Scans -/

/-- How a scan goes over some keys: in pages, each with the cursor at which it starts. The first
page starts at zero. -/
structure Paging where
  pages : List String → List (UInt64 × List String)

/-- The pages of `size` keys behind `start`. -/
def pagesFrom (size : Nat) : (fuel : Nat) → (start : Nat) → List String →
    List (UInt64 × List String)
  | 0, _, _ => []
  | fuel + 1, start, keys =>
    (.ofNat start, keys.take size) ::
      if keys.length ≤ size then [] else pagesFrom size fuel (start + size) (keys.drop size)

/-- Pages of a fixed size; the cursor counts the keys in front. -/
def Paging.ofSize (size : Nat) : Paging := ⟨fun keys => pagesFrom size (keys.length + 1) 0 keys⟩

/-- The keys on the page at a cursor, and the cursor of the page behind it, zero if there is
none. -/
def page (cursor : UInt64) : List (UInt64 × List String) → UInt64 × List String
  | [] => (0, [])
  | (start, keys) :: rest =>
    if start = cursor then ((rest.head?.map (·.1)).getD 0, keys) else page cursor rest

/-! ## Answers -/

/-- Deletes some keys and counts those that were there. -/
def deleteAll (space : Keyspace) : List String → Nat × Keyspace
  | [] => (0, space)
  | key :: rest =>
    let (count, after) := (space.erase key).deleteAll rest
    ((if space.contains key then 1 else 0) + count, after)

/-- The answer to a command, and the store behind it. -/
def answer (paging : Paging) (space : Keyspace) : Command → Reply × Keyspace
  | .get key => (((space.find? key).map fun stored => .text stored.value).getD .nil, space)
  | .put key value seconds =>
    (.text "OK", space.put key ⟨value, some (space.now + Duration.ofSeconds seconds.toNat)⟩)
  | .delete keys =>
    let (count, after) := space.deleteAll keys
    (.integer count, after)
  | .timeToLive key => (.integer (space.timeToLive key), space)
  | .scan cursor pattern _ =>
    let (next, keys) := page cursor (paging.pages space.keys)
    (.list [.integer next.toNat, .list ((keys.filter (Glob.isMatch pattern)).map .text)], space)
  | .ping => (.text "PONG", space)

/-- The store that can always be reached, at once. -/
def store (paging : Paging) : Store Keyspace where
  connect _ := return .connected
  answer command := modifyGet fun space =>
    let (reply, after) := space.answer paging command
    (.ok reply, after)
  waited _ := 0

end Keyspace

end CompletionCache
