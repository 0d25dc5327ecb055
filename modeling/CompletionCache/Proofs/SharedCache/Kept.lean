import CompletionCache.Proofs.Backend.Run
import CompletionCache.Proofs.Json.Record
import CompletionCache.Proofs.SharedCache.Attempt
import CompletionCache.Proofs.Store.Keyspace
import Mathlib.Data.Fintype.Card

/-!
# Attempts over a store that keeps its word

Over such a store an attempt can fail only because the cache pauses behind an old failure. A cache
that is ready connects (`run_connect`), every command is answered as it is meant (`run_send`), a scan
whose pages are fair finds the keys under the prefix (`run_scan`), and a deletion takes away what it
is told (`run_deleteKeys`).
-/

set_option autoImplicit false

namespace CompletionCache

/-- Pages of some keys over which a scan can go: the first one starts at zero, no two start alike, and
together they hold the keys and nothing else. -/
structure Keyspace.Paging.Fair (paging : Keyspace.Paging) : Prop where
  first : ∀ keys, ∃ page rest, paging.pages keys = (0, page) :: rest
  nodup : ∀ keys, ((paging.pages keys).map (·.1)).Nodup
  covers : ∀ keys key, (∃ page ∈ paging.pages keys, key ∈ page.2) ↔ key ∈ keys

/-- All keys on one page. -/
def Keyspace.Paging.single : Keyspace.Paging := ⟨fun keys => [(0, keys)]⟩

theorem Keyspace.Paging.fair_single : single.Fair where
  first keys := ⟨keys, [], rfl⟩
  nodup _ := List.nodup_singleton 0
  covers keys key := by simp [single]

namespace SharedCache

variable {σ : Type} {α β : Type}

/-! ## Connections and commands -/

/-- An attempt goes on behind a part of it that succeeds. -/
theorem run_bind_of_ok {attempt : Attempting σ α} {next : α → Attempting σ β}
    {state after : SharedCache × σ} {value : α} (ran : attempt.run.run state = (.ok value, after)) :
    (attempt >>= next).run.run state = (next value).run.run after := by
  rw [ExceptT.run_bind, StateT.run_bind, ran]
  rfl

/-- Nothing goes on behind a part that fails. -/
theorem run_bind_of_error {attempt : Attempting σ α} {next : α → Attempting σ β}
    {state after : SharedCache × σ} {fault : StoreFault}
    (ran : attempt.run.run state = (.error fault, after)) :
    (attempt >>= next).run.run state = (.error fault, after) := by
  rw [ExceptT.run_bind, StateT.run_bind, ran]
  rfl

theorem run_onStore (action : StateM σ α) (state : SharedCache × σ) :
    (onStore action).run.run state =
      (.ok (action.run state.2).1, (state.1, (action.run state.2).2)) := rfl

theorem run_current (state : SharedCache × σ) :
    (current (σ := σ)).run.run state = (.ok state.1, state) := rfl

/-- A cache that does not pause: it is connected, or no attempt to connect has failed. -/
def Ready (cache : SharedCache) : Prop := cache.isConnected = true ∨ cache.lastFailure = none

/-- The cache behind a connection. -/
def connected (cache : SharedCache) : SharedCache :=
  if cache.isConnected then cache else { cache with isConnected := true, lastFailure := none }

@[simp]
theorem config_connected (cache : SharedCache) : cache.connected.config = cache.config := by
  unfold connected
  split <;> rfl

@[simp]
theorem store_connected (cache : SharedCache) : cache.connected.store = cache.store := by
  unfold connected
  split <;> rfl

@[simp]
theorem isConnected_connected (cache : SharedCache) : cache.connected.isConnected = true := by
  unfold connected
  split
  · assumption
  · rfl

@[simp]
theorem storeKey_connected (cache : SharedCache) (key : String) :
    cache.connected.storeKey key = cache.storeKey key := by
  rw [storeKey, storeKey, store_connected]

theorem ready_connected (cache : SharedCache) : cache.connected.Ready :=
  .inl cache.isConnected_connected

variable {paging : Keyspace.Paging} {cache : SharedCache} {space : Keyspace}

/-- How long ago a failure lies behind which the cache still pauses. -/
def pause? (cache : SharedCache) (now : Instant) : Option Duration :=
  if cache.isConnected then none
  else (cache.lastFailure.map (Instant.remaining now)).filter fun since => decide (since < retryPause)

theorem pause?_eq_some_iff {now : Instant} {since : Duration} :
    cache.pause? now = some since ↔ cache.isConnected = false ∧ ∃ failure,
      cache.lastFailure = some failure ∧ Instant.remaining now failure = since ∧
        since < retryPause := by
  rw [pause?]
  cases cache.isConnected with
  | true => simp
  | false =>
    simp only [Bool.false_eq_true, if_false, Option.filter_eq_some_iff, Option.map_eq_some_iff,
      decide_eq_true_eq, true_and]
    constructor
    · rintro ⟨⟨failure, failed, rfl⟩, soon⟩
      exact ⟨failure, failed, rfl, soon⟩
    · rintro ⟨failure, failed, rfl, soon⟩
      exact ⟨⟨failure, failed, rfl⟩, soon⟩

theorem Ready.pause?_eq_none (ready : cache.Ready) (now : Instant) : cache.pause? now = none := by
  rw [pause?]
  rcases ready with connected | unfailed
  · rw [if_pos connected]
  · rw [unfailed]
    simp

section Connect

variable (store : Store σ) (state : σ) {now : Instant}

/-- A connected cache is not connected again. -/
theorem run_connect_of_connected (connected : cache.isConnected = true) (now : Instant) :
    (connect store now).run.run (cache, state) = (.ok (), (cache, state)) := by
  rw [connect, run_bind_of_ok (run_current _), if_pos connected]
  rfl

/-- A cache that pauses does not try the store. -/
theorem run_connect_of_pausing {since : Duration} (pausing : cache.pause? now = some since) :
    (connect store now).run.run (cache, state) = (.error (.pausing since), (cache, state)) := by
  obtain ⟨apart, failure, failed, rfl, soon⟩ := pause?_eq_some_iff.1 pausing
  rw [connect, run_bind_of_ok (run_current _), if_neg (ne_true_of_eq_false apart), failed]
  dsimp only
  rw [if_pos soon]
  rfl

/-- Any other cache dials. -/
theorem run_connect_of_due (apart : cache.isConnected = false) (due : cache.pause? now = none) :
    (connect store now).run.run (cache, state) = (dial store now cache).run.run (cache, state) := by
  rw [connect, run_bind_of_ok (run_current _), if_neg (ne_true_of_eq_false apart)]
  cases failed : cache.lastFailure with
  | none => rfl
  | some failure =>
    have late : ¬ Instant.remaining now failure < retryPause := by
      intro soon
      rw [pause?_eq_some_iff.2 ⟨apart, failure, failed, rfl, soon⟩] at due
      cases due
    dsimp only
    rw [if_neg late]

end Connect

/-- A cache connects unless it pauses. -/
theorem run_connect_eq (cache : SharedCache) (space : Keyspace) (now : Instant) :
    (connect (Keyspace.store paging) now).run.run (cache, space) =
      match cache.pause? now with
      | none => (.ok (), (cache.connected, space))
      | some since => (.error (.pausing since), (cache, space)) := by
  cases pause : cache.pause? now with
  | some since => exact run_connect_of_pausing _ _ pause
  | none =>
    cases link : cache.isConnected with
    | true => rw [run_connect_of_connected _ _ link, connected, if_pos link]
    | false =>
      rw [run_connect_of_due _ _ link pause, connected, if_neg (ne_true_of_eq_false link)]
      rfl

theorem run_connect (ready : cache.Ready) (now : Instant) :
    (connect (Keyspace.store paging) now).run.run (cache, space) =
      (.ok (), (cache.connected, space)) := by
  rw [run_connect_eq, ready.pause?_eq_none]

/-- A cache that does not connect is pausing. -/
theorem run_connect_cases (cache : SharedCache) (space : Keyspace) (now : Instant) :
    (∃ fault, (connect (Keyspace.store paging) now).run.run (cache, space) =
      (.error fault, (cache, space))) ∨
    (connect (Keyspace.store paging) now).run.run (cache, space) =
      (.ok (), (cache.connected, space)) := by
  rw [run_connect_eq]
  cases cache.pause? now with
  | none => exact .inr rfl
  | some since => exact .inl ⟨_, rfl⟩

theorem run_send {command : Command} {read : Reply → Except CommandFault α} {value : α}
    (ok : read (space.answer paging command).1 = .ok value) :
    (send (Keyspace.store paging) command read).run.run (cache, space) =
      (.ok value, (cache, (space.answer paging command).2)) := by
  have answered : (onStore ((Keyspace.store paging).answer command)).run.run (cache, space) =
      (.ok (.ok (space.answer paging command).1), (cache, (space.answer paging command).2)) :=
    run_onStore _ _
  rw [send, run_bind_of_ok answered]
  have replied : (orFault (σ := Keyspace) (.ok (space.answer paging command).1)).run.run
      (cache, (space.answer paging command).2) =
      (.ok (space.answer paging command).1, (cache, (space.answer paging command).2)) := rfl
  rw [run_bind_of_ok replied, ok]
  rfl

/-! ## Deletions -/

theorem run_sendDelete (paging : Keyspace.Paging) (cache : SharedCache) (space : Keyspace)
    (keys : List String) :
    ∃ count, (send (Keyspace.store paging) (.delete keys) Reply.readCount).run.run (cache, space) =
      (.ok count, (cache, (space.deleteAll keys).2)) :=
  ⟨_, run_send rfl⟩

theorem run_deleteFrom {fuel : Nat} {keys : List String} (enough : keys.length ≤ fuel) :
    (deleteFrom (Keyspace.store paging) fuel keys).run.run (cache, space) =
      (.ok (), (cache, (space.deleteAll keys).2)) := by
  induction fuel generalizing keys space with
  | zero =>
    obtain rfl := List.eq_nil_of_length_eq_zero (Nat.le_zero.1 enough)
    rfl
  | succ fuel ih =>
    rw [deleteFrom]
    cases keys with
    | nil => rfl
    | cons key keys =>
      -- Each command takes away one key at least, and what the commands take is taken in a row.
      obtain ⟨count, deleted⟩ :=
        run_sendDelete paging cache space ((key :: keys).take deleteCount)
      have fewer : ((key :: keys).drop deleteCount).length ≤ fuel := by
        rw [List.length_drop, deleteCount]
        rw [List.length_cons] at enough ⊢
        omega
      simp only [List.isEmpty_cons, Bool.false_eq_true, if_false]
      rw [run_bind_of_ok deleted, ih fewer, ← Keyspace.deleteAll_append, List.take_append_drop]

theorem run_deleteKeys (keys : List String) :
    (deleteKeys (Keyspace.store paging) keys).run.run (cache, space) =
      (.ok (), (cache, (space.deleteAll keys).2)) :=
  run_deleteFrom (Nat.le_refl _)

/-! ## Scans -/

/-- The page at a cursor where one starts, if no page before it starts there. -/
theorem page_append {front rest : List (UInt64 × List String)} {start : UInt64}
    {keys : List String} (new : start ∉ front.map (·.1)) :
    Keyspace.page start (front ++ (start, keys) :: rest) =
      ((rest.head?.map (·.1)).getD 0, keys) := by
  induction front with
  | nil => simp [Keyspace.page]
  | cons first front ih =>
    obtain ⟨other, others⟩ := first
    rw [List.map_cons, List.mem_cons, not_or] at new
    rw [List.cons_append, Keyspace.page, if_neg (Ne.symm new.1), ih new.2]

/-- A count that fits is read as it is. -/
theorem readCount_integer {n : Nat} (small : n < 2 ^ 64) :
    (Reply.integer n).readCount = .ok (.ofNat n) := by
  have whole : ((n : Int) % 0x10000000000000000).toNat = n := by omega
  rw [Reply.readCount, Reply.readNumber, Json.map_eq_ok]
  exact ⟨n, rfl, by rw [whole]⟩

theorem readTexts_texts (texts : List String) :
    (Reply.list (texts.map .text)).readTexts = .ok texts := by
  rw [Reply.readTexts]
  induction texts with
  | nil => rfl
  | cons text texts ih =>
    rw [List.map_cons, List.mapM_cons, ih]
    rfl

/-- A page is read as what it says. -/
theorem readPage_answer (cursor : UInt64) (pattern : String) (count : Nat) :
    (space.answer paging (.scan cursor pattern count)).1.readPage =
      .ok ((Keyspace.page cursor (paging.pages space.keys)).1,
        (Keyspace.page cursor (paging.pages space.keys)).2.filter (Glob.isMatch pattern)) := by
  rw [Keyspace.answer]
  generalize Keyspace.page cursor (paging.pages space.keys) = page
  obtain ⟨next, keys⟩ := page
  dsimp only
  rw [Reply.readPage, readCount_integer next.toNat_lt, UInt64.ofNat_toNat, readTexts_texts]
  rfl

/-- The keys of a page that match a pattern, added to those that have been found. -/
def addPage (pattern : String) (found : NameSet) (keys : List String) : NameSet :=
  found.insertAll (keys.filter (Glob.isMatch pattern))

theorem mem_foldl_addPage {pattern : String} {pages : List (List String)} {found : NameSet}
    {key : String} :
    key ∈ pages.foldl (addPage pattern) found ↔
      key ∈ found ∨ ∃ keys ∈ pages, key ∈ keys ∧ Glob.isMatch pattern key = true := by
  induction pages generalizing found with
  | nil => simp
  | cons keys pages ih =>
    rw [List.foldl_cons, ih, addPage, NameSet.mem_insertAll, List.mem_filter,
      List.exists_mem_cons_iff, or_comm (a := _ ∧ _), or_assoc]

/-- A scan adds the keys of a page and goes on at the start of the next one, if there is one. -/
theorem run_scanPage {pattern : String} {front rest : List (UInt64 × List String)} {start : UInt64}
    {keys : List String} (pages : paging.pages space.keys = front ++ (start, keys) :: rest)
    (new : start ∉ front.map (·.1)) (fuel : Nat) (found : NameSet) :
    (scanFrom (Keyspace.store paging) pattern (fuel + 1) start found).run.run (cache, space) =
      if (rest.head?.map (·.1)).getD 0 = 0 then
        (.ok (addPage pattern found keys).names, (cache, space))
      else (scanFrom (Keyspace.store paging) pattern fuel ((rest.head?.map (·.1)).getD 0)
        (addPage pattern found keys)).run.run (cache, space) := by
  have asked : (send (Keyspace.store paging) (.scan start pattern scanCount)
      Reply.readPage).run.run (cache, space) =
      (.ok ((rest.head?.map (·.1)).getD 0, keys.filter (Glob.isMatch pattern)), (cache, space)) := by
    have read : (space.answer paging (.scan start pattern scanCount)).1.readPage =
        .ok ((rest.head?.map (·.1)).getD 0, keys.filter (Glob.isMatch pattern)) := by
      rw [readPage_answer, pages, page_append new]
    exact run_send read
  rw [scanFrom, run_bind_of_ok asked]
  dsimp only
  split_ifs <;> rfl

/-- From the start of a page on, a scan finds the keys of that page and of all pages behind it. -/
theorem run_scanFrom {pattern : String} {front rest : List (UInt64 × List String)} {start : UInt64}
    {keys : List String} {found : NameSet} {fuel : Nat}
    (pages : paging.pages space.keys = front ++ (start, keys) :: rest)
    (nodup : ((front ++ (start, keys) :: rest).map (·.1)).Nodup) (behind : 0 ∉ rest.map (·.1))
    (enough : rest.length < fuel) :
    (scanFrom (Keyspace.store paging) pattern fuel start found).run.run (cache, space) =
      (.ok ((((start, keys) :: rest).map (·.2)).foldl (addPage pattern) found).names,
        (cache, space)) := by
  have new : start ∉ front.map (·.1) := by
    rw [List.map_append, List.nodup_append'] at nodup
    exact fun before => nodup.2.2 before List.mem_cons_self
  induction rest generalizing front start keys found fuel with
  | nil =>
    cases fuel with
    | zero => cases enough
    | succ fuel =>
      rw [run_scanPage pages new]
      rfl
  | cons next rest ih =>
    obtain ⟨following, others⟩ := next
    rw [List.map_cons, List.mem_cons, not_or] at behind
    cases fuel with
    | zero => cases enough
    | succ fuel =>
      rw [run_scanPage pages new]
      have ahead : ((((following, others) :: rest).head?.map (·.1)).getD 0) ≠ 0 :=
        Ne.symm behind.1
      rw [if_neg ahead]
      -- The page that was read is one of those in front now.
      rw [List.append_cons] at pages nodup
      have newNext : following ∉ (front ++ [(start, keys)]).map (·.1) := by
        rw [List.map_append, List.nodup_append'] at nodup
        exact fun before => nodup.2.2 before List.mem_cons_self
      exact ih pages nodup behind.2 (Nat.lt_of_succ_lt_succ enough) newNext

/-- There are no more pages than cursors. -/
theorem Fair.length_lt {paging : Keyspace.Paging} (fair : paging.Fair) {keys : List String}
    {page : List String} {rest : List (UInt64 × List String)}
    (pages : paging.pages keys = (0, page) :: rest) : rest.length < maxPages := by
  -- The pages start at different cursors, and a cursor is a number of 64 bits.
  have nodup : ((paging.pages keys).map (fun page => page.1.toNat)).Nodup := by
    have starts := (fair.nodup keys).map (f := UInt64.toNat) fun _ _ => UInt64.toNat_inj.1
    rwa [List.map_map] at starts
  have within : (paging.pages keys).map (fun page => page.1.toNat) ⊆ List.range UInt64.size := by
    intro start mem
    obtain ⟨page, -, rfl⟩ := List.mem_map.1 mem
    exact List.mem_range.2 page.1.toNat_lt
  have fits := (List.subperm_of_subset nodup within).length_le
  rw [List.length_map, List.length_range, pages] at fits
  exact fits

/-- A scan over fair pages finds the keys under the prefix. -/
theorem run_scan (fair : paging.Fair) :
    (scan (Keyspace.store paging)).run.run (cache, space) =
      (.ok (space.under cache.store.keyPrefix), (cache, space)) := by
  -- The scan starts at zero, where the first page starts, and only the last one leads back there.
  obtain ⟨keys, rest, pages⟩ := fair.first space.keys
  have nodup := fair.nodup space.keys
  rw [pages] at nodup
  rw [scan, run_bind_of_ok (run_current _),
    run_scanFrom (show paging.pages space.keys = [] ++ (0, keys) :: rest from pages) nodup
      (List.nodup_cons.1 nodup).1 (Fair.length_lt fair pages)]
  -- The pages hold the keys, so both lists hold those that match, in order.
  have same : ((((0, keys) :: rest).map (·.2)).foldl (addPage cache.pattern) .empty).names =
      space.under cache.store.keyPrefix := by
    apply eq_of_mem_iff
    · exact NameSet.ascending _
    · exact Keyspace.ascending_under _ _
    · intro key
      show key ∈ List.foldl _ NameSet.empty _ ↔ _
      rw [← pages, mem_foldl_addPage, or_iff_right NameSet.not_mem_empty, Keyspace.under,
        List.mem_filter, ← fair.covers space.keys]
      constructor
      · rintro ⟨keys, listed, mem, matching⟩
        obtain ⟨page, there, rfl⟩ := List.mem_map.1 listed
        exact ⟨⟨page, there, mem⟩, matching⟩
      · rintro ⟨⟨page, listed, mem⟩, matching⟩
        exact ⟨page.2, List.mem_map_of_mem listed, mem, matching⟩
  rw [same]

/-! ## What is tried -/

/-- A text is read as the entry that it writes, if it writes one. -/
theorem run_readEntry (text : String) (state : SharedCache × σ) :
    (readEntry text).run.run state =
      ((Entry.ofText? text).elim (.error .unreadableEntry) .ok, state) := by
  rw [readEntry]
  cases Entry.ofText? text with
  | none => rfl
  | some entry => rfl

/-- The document of the entry that a cache writes. -/
def document (cache : SharedCache) (now : Instant) (key : String) (response : Response)
    (model : String) (tokens : UInt64) : Json :=
  (Entry.create now key response model tokens cache.config.ttlDuration).toJson

section Ready

variable (ready : cache.Ready) (now : Instant)

include ready

/-- A key that is not there is not found. -/
theorem run_tryGet_none {key : String} (absent : space.find? (cache.storeKey key) = none) :
    (tryGet (Keyspace.store paging) now key).run.run (cache, space) =
      (.ok none, (cache.connected, space)) := by
  have read : (space.answer paging (.get (cache.storeKey key))).1.readOptionalText = .ok none := by
    rw [Keyspace.answer, absent]
    rfl
  rw [tryGet, run_bind_of_ok (run_connect ready now), run_bind_of_ok (run_current _),
    storeKey_connected, run_bind_of_ok (run_send read)]
  rfl

/-- A document that is there is read, whatever comes of it. -/
theorem run_tryGet_stored {key : String} {stored : Stored}
    (found : space.find? (cache.storeKey key) = some stored) :
    (tryGet (Keyspace.store paging) now key).run.run (cache, space) =
      (some <$> readEntry stored.value).run.run (cache.connected, space) := by
  have read : (space.answer paging (.get (cache.storeKey key))).1.readOptionalText =
      .ok (some stored.value) := by
    rw [Keyspace.answer, found]
    rfl
  rw [tryGet, run_bind_of_ok (run_connect ready now), run_bind_of_ok (run_current _),
    storeKey_connected, run_bind_of_ok (run_send read)]
  rfl

/-- Whatever is found, a lookup connects the cache and leaves the store as it is. -/
theorem run_tryGet_snd (key : String) :
    ((tryGet (Keyspace.store paging) now key).run.run (cache, space)).2 =
      (cache.connected, space) := by
  cases found : space.find? (cache.storeKey key) with
  | none => rw [run_tryGet_none ready now found]
  | some stored =>
    -- To read a document touches neither the cache nor the store.
    rw [run_tryGet_stored ready now found, ExceptT.run_map, StateT.run_map, run_readEntry]
    rfl

omit now in
/-- What is written stands under the key and is dropped at the end of the lifetime. -/
theorem run_trySet (clocks : Clocks) (key : String) (response : Response) (model : String)
    (tokens : UInt64) :
    (trySet (Keyspace.store paging) clocks key response model tokens).run.run (cache, space) =
      (.ok (), (cache.connected, space.put (cache.storeKey key)
        ⟨(Entry.create clocks.wall key response model tokens cache.config.ttlDuration).toJson.text,
          some (space.now + cache.config.ttlDuration)⟩)) := by
  rw [trySet, run_bind_of_ok (run_current _), run_bind_of_ok (run_connect ready clocks.mono)]
  exact run_send rfl

/-- A deletion takes its key away and counts it, if it is there. -/
theorem run_tryDelete (key : String) :
    (tryDelete (Keyspace.store paging) now key).run.run (cache, space) =
      (.ok (if space.contains (cache.storeKey key) then 1 else 0),
        (cache.connected, space.erase (cache.storeKey key))) := by
  have counted : (space.answer paging (.delete [cache.storeKey key])).1.readCount =
      .ok (if space.contains (cache.storeKey key) then 1 else 0) := by
    cases there : space.contains (cache.storeKey key) <;>
      simp [Keyspace.answer, Keyspace.deleteAll, there, Reply.readCount, Reply.readNumber]
  rw [tryDelete, run_bind_of_ok (run_connect ready now), run_bind_of_ok (run_current _),
    storeKey_connected, run_send counted]
  rfl

variable (fair : paging.Fair)

include fair

theorem run_tryCount :
    (tryCount (Keyspace.store paging) now).run.run (cache, space) =
      (.ok (space.under cache.store.keyPrefix).length, (cache.connected, space)) := by
  rw [tryCount, run_bind_of_ok (run_connect ready now), run_bind_of_ok (run_scan fair),
    store_connected]
  rfl

/-- Everything under the prefix is deleted. -/
theorem run_tryClear :
    (tryClear (Keyspace.store paging) now).run.run (cache, space) =
      (.ok (), (cache.connected, (space.deleteAll (space.under cache.store.keyPrefix)).2)) := by
  rw [tryClear, run_bind_of_ok (run_connect ready now), run_bind_of_ok (run_scan fair),
    store_connected, run_deleteKeys]

/-- The store is asked at once, and the entries are counted. -/
theorem run_tryHealth :
    (tryHealth (Keyspace.store paging) now).run.run (cache, space) =
      (.ok (0, (space.under cache.store.keyPrefix).length), (cache.connected, space)) := by
  have waitedFor : ∀ cache : SharedCache,
      (waited (Keyspace.store paging)).run.run (cache, space) = (.ok 0, (cache, space)) :=
    fun _ => rfl
  have ping : (send (Keyspace.store paging) .ping Reply.readText).run.run (cache.connected, space) =
      (.ok "PONG", (cache.connected, space)) := run_send rfl
  rw [tryHealth, run_bind_of_ok (waitedFor _), run_bind_of_ok (run_connect ready now),
    run_bind_of_ok ping, run_bind_of_ok (waitedFor _), run_bind_of_ok (run_scan fair),
    store_connected]
  rfl

end Ready

/-! ## Operations -/

@[simp]
theorem config_counted (cache : SharedCache) (hit : Option Entry) :
    (cache.counted hit).config = cache.config := by
  unfold counted
  split <;> rfl

theorem Ready.counted {cache : SharedCache} (ready : cache.Ready) (hit : Option Entry) :
    (cache.counted hit).Ready := by
  unfold SharedCache.counted
  split
  · exact ready
  · exact ready

section Events

variable (store : Store σ) (state : SharedCache × σ) (clocks : Clocks)

@[simp]
theorem step_get (key : String) :
    (backend store).step state ⟨clocks, .get key⟩ = ((get store clocks key).run state).2 := rfl

@[simp]
theorem step_set (key : String) (response : Response) (model : String) (tokens : UInt64) :
    (backend store).step state ⟨clocks, .set key response model tokens⟩ =
      ((set store clocks key response model tokens).run state).2 := rfl

@[simp]
theorem step_delete (key : String) :
    (backend store).step state ⟨clocks, .delete key⟩ = ((delete store clocks key).run state).2 := rfl

@[simp]
theorem step_clear :
    (backend store).step state ⟨clocks, .clear⟩ = ((clear store clocks).run state).2 := rfl

@[simp]
theorem step_stats :
    (backend store).step state ⟨clocks, .stats⟩ = ((stats store clocks).run state).2 := rfl

@[simp]
theorem step_health :
    (backend store).step state ⟨clocks, .health⟩ = ((health store clocks).run state).2 := rfl

theorem answer_get (key : String) :
    (backend store).answer state ⟨clocks, .get key⟩ =
      .ok (.found ((get store clocks key).run state).1) := rfl

theorem run_stats_snd :
    ((stats store clocks).run state).2 = ((tryCount store clocks.mono).run.run state).2 := rfl

theorem run_health_snd :
    ((health store clocks).run state).2 = ((tryHealth store clocks.mono).run.run state).2 := rfl

end Events

/-- The entry that a text writes, unless it has expired. -/
def unexpired (text : String) (now : Instant) : Option Entry :=
  (Entry.ofText? text).filter fun entry => !entry.isExpiredAt now

/-- What a lookup finds under a key of the store. -/
def seen (space : Keyspace) (key : String) (wall : Instant) : Option Entry :=
  (space.find? key).bind fun stored => unexpired stored.value wall

section Operations

variable (ready : cache.Ready) (clocks : Clocks)

include ready

theorem live_tryGet (key : String) :
    live clocks ((tryGet (Keyspace.store paging) clocks.mono key).run.run (cache, space)).1 =
      seen space (cache.storeKey key) clocks.wall := by
  rw [seen]
  cases found : space.find? (cache.storeKey key) with
  | none =>
    rw [run_tryGet_none ready clocks.mono found]
    rfl
  | some stored =>
    rw [run_tryGet_stored ready clocks.mono found, ExceptT.run_map, StateT.run_map, run_readEntry,
      Option.bind_some, unexpired]
    cases Entry.ofText? stored.value with
    | none => rfl
    | some entry =>
      change live clocks (.ok (some entry)) = _
      rw [live, Option.filter_some]
      cases entry.isExpiredAt clocks.wall <;> rfl

/-- A lookup finds what the store holds under its key, read and held to its expiry. -/
theorem run_get_of_ready (key : String) :
    (get (Keyspace.store paging) clocks key).run (cache, space) =
      (seen space (cache.storeKey key) clocks.wall,
        (cache.connected.counted (seen space (cache.storeKey key) clocks.wall), space)) := by
  rw [run_get, live_tryGet ready, run_tryGet_snd ready]

/-- Without a capacity, a write is a write and nothing else. -/
theorem run_set_unbounded (unbounded : cache.config.maxSize = none) (key : String)
    (response : Response) (model : String) (tokens : UInt64) :
    (set (Keyspace.store paging) clocks key response model tokens).run (cache, space) =
      ((), ({ cache.connected with sets := cache.connected.sets + 1 },
        space.put (cache.storeKey key)
          ⟨(Entry.create clocks.wall key response model tokens
            cache.config.ttlDuration).toJson.text, some (space.now + cache.config.ttlDuration)⟩)) := by
  have roomy : cache.connected.config.capacity? = none := by
    rw [config_connected, Config.capacity?, unbounded]
    rfl
  rw [run_set, run_trySet ready]
  dsimp only
  rw [roomy]

end Operations

end SharedCache

end CompletionCache
