import CompletionCache.Backend.Basic
import CompletionCache.Config.Backend
import CompletionCache.Store.Command
import CompletionCache.Store.Eviction
import CompletionCache.Store.Glob

/-!
# The cache in a shared store

A `SharedCache` keeps entries as documents in a store, under keys that begin with its prefix; the
store drops them when they expire. Whatever goes wrong with the store is a `StoreFault` and stays in
here: a lookup then finds nothing and a write is given up. After an attempt to connect has failed
there is no other one for `retryPause`. The capacity is kept only roughly, see `Eviction.select`.
-/

set_option autoImplicit false

namespace CompletionCache

/-- What goes wrong with a store. -/
inductive StoreFault where
  /-- A connection took too long. -/
  | connectTimeout (url : String) (timeout : Duration)
  /-- The last attempt to connect failed so short a time ago that there is no other one yet. -/
  | pausing (since : Duration)
  /-- A command, or the opening of the connection, failed. -/
  | command (fault : CommandFault)
  /-- What the store returned is no entry. -/
  | unreadableEntry
  /-- A scan went through more pages than there are cursors. -/
  | endlessScan
  deriving DecidableEq

/-- The words of a fault. -/
def StoreFault.message : StoreFault → String
  | connectTimeout url timeout => "connect to " ++ url ++ " timed out after " ++ timeout.text
  | pausing since => "store unavailable (last connect failed " ++ Duration.text since ++ " ago)"
  | command fault => "store command failed: " ++ fault.message
  | unreadableEntry => "entry serialization failed"
  | endlessScan => "scan did not end"

/-- The cache in a shared store. -/
structure SharedCache where
  config : Config
  store : StoreConfig
  isConnected : Bool
  lastFailure : Option Instant
  hits : Nat
  misses : Nat
  sets : Nat

namespace SharedCache

/-- The name of this kind of cache. -/
def name : String := BackendKind.shared.name

/-- A cache that has not been connected to its store. -/
def create (config : Config) (store : StoreConfig) : Result SharedCache := do
  store.validate
  match store.endpoint with
  | .error fault => throw fault.error
  | .ok _ => return ⟨config, store, false, none, 0, 0, 0⟩

/-- How long no connection is tried after one has failed. -/
def retryPause : Duration := Duration.ofSeconds 5

/-- How many keys a page of a scan is asked to have. -/
def scanCount : Nat := 500

/-- How many keys one command deletes at most. -/
def deleteCount : Nat := 500

/-- How many pages a scan may have: as many as there are cursors. -/
def maxPages : Nat := UInt64.size

/-- The key of the store for a key of the cache. -/
def storeKey (cache : SharedCache) (key : String) : String := cache.store.keyPrefix ++ key

/-- The pattern of the keys that belong to the cache. -/
def pattern (cache : SharedCache) : String := Glob.startingWith cache.store.keyPrefix

/-- An operation on the cache and its store that the store may fail. -/
abbrev Attempting (σ : Type) := ExceptT StoreFault (StateM (SharedCache × σ))

section Operations

variable {σ : Type} (store : Store σ)

/-! ## Connections and commands -/

/-- The cache as it is. -/
def current : Attempting σ SharedCache := return (← getThe (SharedCache × σ)).1

/-- Changes the cache. -/
def change (f : SharedCache → SharedCache) : Attempting σ Unit :=
  modifyThe (SharedCache × σ) fun state => (f state.1, state.2)

/-- Something that the store does. -/
def onStore {α : Type} (action : StateM σ α) : Attempting σ α :=
  modifyGetThe (SharedCache × σ) fun state =>
    let (result, after) := action.run state.2
    (result, (state.1, after))

/-- How long the store has kept its callers waiting so far. -/
def waited : Attempting σ Duration := return store.waited (← getThe (SharedCache × σ)).2

/-- Tries to connect to the store. The instant of a failure is that of its end. -/
def dial (now : Instant) (cache : SharedCache) : Attempting σ Unit := do
  let before ← waited store
  match ← onStore (store.connect cache.store.connectTimeout) with
  | .connected => change fun cache => { cache with isConnected := true, lastFailure := none }
  | .failed fault =>
    let failure := now + ((← waited store) - before : Nat)
    change fun cache => { cache with lastFailure := some failure }
    throw (.command fault)
  | .timedOut =>
    let failure := now + ((← waited store) - before : Nat)
    change fun cache => { cache with lastFailure := some failure }
    throw (.connectTimeout cache.store.redactedUrl cache.store.connectTimeout)

/-- Connects to the store, unless the cache is connected or the last failure is too recent. -/
def connect (now : Instant) : Attempting σ Unit := do
  let cache ← current
  if cache.isConnected then return
  if let some failure := cache.lastFailure then
    let since := Instant.remaining now failure
    if since < retryPause then throw (.pausing since)
  dial store now cache

/-- Turns a fault of a command into one of the store. -/
def orFault {α : Type} : Except CommandFault α → Attempting σ α
  | .ok value => return value
  | .error fault => throw (.command fault)

/-- Sends a command and reads the reply. -/
def send {α : Type} (command : Command) (read : Reply → Except CommandFault α) :
    Attempting σ α := do
  let reply ← orFault (← onStore (store.answer command))
  orFault (read reply)

/-- Sends commands all at once and reads the replies to all of them. -/
def sendAll {α : Type} (commands : List Command) (read : Reply → Except CommandFault α) :
    Attempting σ (List α) := do
  let replies ← onStore (commands.mapM store.answer)
  replies.mapM fun reply => do orFault (read (← orFault reply))

/-- Adds the keys from a cursor on to those that have been found. -/
def scanFrom (pattern : String) : (fuel : Nat) → (cursor : UInt64) → (found : NameSet) →
    Attempting σ (List String)
  | 0, _, _ => throw .endlessScan
  | fuel + 1, cursor, found => do
    let (next, keys) ← send store (.scan cursor pattern scanCount) Reply.readPage
    let found := found.insertAll keys
    if next = 0 then return found.names else scanFrom pattern fuel next found

/-- The keys of the store that belong to the cache, sorted, each once. -/
def scan : Attempting σ (List String) := do
  scanFrom store (← current).pattern maxPages 0 .empty

/-- Deletes keys, so many at a time. -/
def deleteFrom : (fuel : Nat) → List String → Attempting σ Unit
  | 0, _ => return
  | fuel + 1, keys => do
    if keys.isEmpty then return
    let _ ← send store (.delete (keys.take deleteCount)) Reply.readCount
    deleteFrom fuel (keys.drop deleteCount)

/-- Deletes keys. -/
def deleteKeys (keys : List String) : Attempting σ Unit := deleteFrom store keys.length keys

/-! ## What is tried -/

/-- The entry that a text of the store writes. -/
def readEntry (text : String) : Attempting σ Entry :=
  match Entry.ofText? text with
  | some entry => return entry
  | none => throw .unreadableEntry

/-- Looks an entry up. -/
def tryGet (now : Instant) (key : String) : Attempting σ (Option Entry) := do
  connect store now
  match ← send store (.get ((← current).storeKey key)) Reply.readOptionalText with
  | some text => return some (← readEntry text)
  | none => return none

/-- Writes an entry, which the store is to drop when it expires. -/
def trySet (clocks : Clocks) (key : String) (response : Response) (model : String)
    (tokens : UInt64) : Attempting σ Unit := do
  let cache ← current
  let entry := Entry.create clocks.wall key response model tokens cache.config.ttlDuration
  connect store clocks.mono
  send store (.put (cache.storeKey key) entry.toJson.text cache.config.ttl) Reply.readDone

/-- Deletes as many keys as it takes to come down to a capacity. -/
def tryMakeRoom (now : Instant) (maxSize : Nat) : Attempting σ Unit := do
  connect store now
  let keys ← scan store
  if keys.length ≤ maxSize then return
  let ttls ← sendAll store (keys.map .timeToLive) Reply.readInteger
  deleteKeys store (Eviction.select (keys.zip ttls) maxSize)

/-- Deletes an entry and says how many the store had. -/
def tryDelete (now : Instant) (key : String) : Attempting σ UInt64 := do
  connect store now
  send store (.delete [(← current).storeKey key]) Reply.readCount

/-- Counts the entries. -/
def tryCount (now : Instant) : Attempting σ Nat := do
  connect store now
  return (← scan store).length

/-- Deletes all entries. -/
def tryClear (now : Instant) : Attempting σ Unit := do
  connect store now
  deleteKeys store (← scan store)

/-- Asks the store whether it is there: the time that it takes, and the count of entries. -/
def tryHealth (now : Instant) : Attempting σ (Duration × Nat) := do
  let before ← waited store
  connect store now
  let _ ← send store .ping Reply.readText
  let latency := (← waited store) - before
  return (latency, (← scan store).length)

/-! ## Operations -/

/-- Looks an entry up and counts a hit or a miss. An entry that has expired counts as a miss, and so
does every fault. -/
def get (clocks : Clocks) (key : String) : StateM (SharedCache × σ) (Option Entry) := do
  let fetched ← (tryGet store clocks.mono key).run
  let hit := match fetched with
    | .ok (some entry) => if entry.isExpiredAt clocks.wall then none else some entry
    | _ => none
  modify fun (cache, state) =>
    (if hit.isSome then { cache with hits := cache.hits + 1 }
      else { cache with misses := cache.misses + 1 }, state)
  return hit

/-- Writes an entry and then keeps the capacity, as far as the store lets it. -/
def set (clocks : Clocks) (key : String) (response : Response) (model : String) (tokens : UInt64) :
    StateM (SharedCache × σ) Unit := do
  match ← (trySet store clocks key response model tokens).run with
  | .error _ => return
  | .ok () =>
    modify fun (cache, state) => ({ cache with sets := cache.sets + 1 }, state)
    if let some maxSize := (← getThe (SharedCache × σ)).1.config.capacity? then
      let _ ← (tryMakeRoom store clocks.mono maxSize).run

/-- Deletes an entry and says whether the store had it. -/
def delete (clocks : Clocks) (key : String) : StateM (SharedCache × σ) Bool := do
  match ← (tryDelete store clocks.mono key).run with
  | .ok count => return count != 0
  | .error _ => return false

/-- Deletes all entries, as far as the store lets it, and forgets the counts. -/
def clear (clocks : Clocks) : StateM (SharedCache × σ) Unit := do
  let _ ← (tryClear store clocks.mono).run
  modify fun (cache, state) => ({ cache with hits := 0, misses := 0, sets := 0 }, state)

/-- The statistics; the count of entries is zero when the store does not tell it. -/
def stats (clocks : Clocks) : StateM (SharedCache × σ) Stats := do
  let total := ((← (tryCount store clocks.mono).run).toOption).getD 0
  let cache := (← getThe (SharedCache × σ)).1
  return {
    backend := name
    totalEntries := total
    activeEntries := none
    maxSize := cache.config.maxSize
    hits := cache.hits
    misses := cache.misses
    sets := some cache.sets
    hitRate := hitRatio cache.hits cache.misses
    ttl := cache.config.ttl
    keyPrefix := some cache.store.keyPrefix }

/-- The health report: the cache is well if the store answers. -/
def health (clocks : Clocks) : StateM (SharedCache × σ) HealthReport := do
  let answer ← (tryHealth store clocks.mono).run
  let cache := (← getThe (SharedCache × σ)).1
  let report := match answer with
    | .ok (latency, entries) =>
      { HealthReport.ofHealthy name with
        latencyMillis := some latency.toMillis
        entries := some entries }
    | .error fault => HealthReport.ofUnhealthy name fault.message
  return { report with
    store := some cache.store.redactedUrl
    keyPrefix := some cache.store.keyPrefix }

/-- The operations of this kind of cache over a store. None of them fails. -/
def backend : Backend (SharedCache × σ) where
  name := name
  get clocks key := get store clocks key
  set clocks key response model tokens := set store clocks key response model tokens
  delete clocks key := delete store clocks key
  clear clocks := clear store clocks
  stats clocks := stats store clocks
  health clocks := health store clocks

end Operations

end SharedCache

end CompletionCache
