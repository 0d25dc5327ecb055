import CompletionCache.Proofs.Entry.ReadBack
import CompletionCache.Proofs.LocalCache.LastWrite
import CompletionCache.Proofs.SharedCache.Kept
import CompletionCache.Proofs.Store.Eviction

/-!
# Writes to a full cache

A write to a cache with a capacity deletes the keys that are closest to their expiry, whichever key it
was that has been written. So the written key itself is deleted when as many other keys as the
capacity outlast it (`contains_set_iff`): they have no expiry, or more seconds left, or just as many
and a later name. As long as it is not, a lookup at the same instant finds what was written.
-/

set_option autoImplicit false

namespace CompletionCache.SharedCache

variable {paging : Keyspace.Paging} {cache : SharedCache} {space : Keyspace}

/-! ## Making room -/

/-- The questions for the remaining times of some keys are answered one by one. -/
theorem run_mapM_timeToLive (keys : List String) :
    ((keys.map Command.timeToLive).mapM (Keyspace.store paging).answer).run space =
      (keys.map fun key => .ok (.integer (space.timeToLive key)), space) := by
  induction keys with
  | nil => rfl
  | cons key keys ih =>
    rw [List.map_cons, List.mapM_cons, StateT.run_bind]
    show (((keys.map Command.timeToLive).mapM (Keyspace.store paging).answer >>= fun replies =>
      pure (.ok (.integer (space.timeToLive key)) :: replies)).run space) = _
    rw [StateT.run_bind, ih]
    rfl

/-- The replies to these questions are read one by one. -/
theorem run_mapM_readInteger (keys : List String) :
    ((keys.map fun key => .ok (.integer (space.timeToLive key))).mapM fun reply => do
        orFault (Reply.readInteger (← orFault reply)) : Attempting Keyspace (List Int)).run.run
      (cache, space) = (.ok (keys.map space.timeToLive), (cache, space)) := by
  induction keys with
  | nil => rfl
  | cons key keys ih =>
    have first : (do
        orFault (Reply.readInteger (← orFault (.ok (.integer (space.timeToLive key))))) :
          Attempting Keyspace Int).run.run (cache, space) =
        (.ok (space.timeToLive key), (cache, space)) := rfl
    rw [List.map_cons, List.mapM_cons, run_bind_of_ok first, run_bind_of_ok ih]
    rfl

theorem run_sendAll_timeToLive (keys : List String) :
    (sendAll (Keyspace.store paging) (keys.map .timeToLive) Reply.readInteger).run.run
      (cache, space) = (.ok (keys.map space.timeToLive), (cache, space)) := by
  have replied : (onStore ((keys.map Command.timeToLive).mapM
      (Keyspace.store paging).answer)).run.run (cache, space) =
      (.ok (keys.map fun key => .ok (.integer (space.timeToLive key))), (cache, space)) := by
    rw [run_onStore, run_mapM_timeToLive]
  rw [sendAll, run_bind_of_ok replied, run_mapM_readInteger]

/-- Room is made by deleting the keys that are selected. -/
theorem run_tryMakeRoom (ready : cache.Ready) (now : Instant) (fair : paging.Fair) (maxSize : Nat) :
    (tryMakeRoom (Keyspace.store paging) now maxSize).run.run (cache, space) =
      (.ok (), (cache.connected, (space.deleteAll
        (Eviction.select (space.ranked cache.store.keyPrefix) maxSize)).2)) := by
  rw [tryMakeRoom, run_bind_of_ok (run_connect ready now), run_bind_of_ok (run_scan fair),
    store_connected]
  split_ifs with room
  · rw [Keyspace.select_of_length_le room]
    rfl
  · have ranked : (space.under cache.store.keyPrefix).zip
        ((space.under cache.store.keyPrefix).map space.timeToLive) =
        space.ranked cache.store.keyPrefix := List.map_prod_left_eq_zip.symm
    rw [run_bind_of_ok (run_sendAll_timeToLive _), run_deleteKeys, ranked]

/-! ## Writes -/

/-- What the store holds behind a write that has been tried with success. -/
def written (cache : SharedCache) (space : Keyspace) (now : Instant) (key : String)
    (response : Response) (model : String) (tokens : UInt64) : Keyspace :=
  space.put (cache.storeKey key)
    ⟨(Entry.create now key response model tokens cache.config.ttlDuration).toJson.text,
      some (space.now + cache.config.ttlDuration)⟩

section Written

variable {now : Instant} {key : String} {response : Response} {model : String} {tokens : UInt64}
  (lasting : 0 < cache.config.ttl)

include lasting

theorem find?_written :
    (written cache space now key response model tokens).find? (cache.storeKey key) =
      some ⟨(Entry.create now key response model tokens cache.config.ttlDuration).toJson.text,
        some (space.now + cache.config.ttlDuration)⟩ :=
  Keyspace.find?_put_lasting space _ _ (UInt64.lt_iff_toNat_lt.1 lasting)

theorem timeToLive_written :
    (written cache space now key response model tokens).timeToLive (cache.storeKey key) =
      Keyspace.reported cache.config.ttlDuration :=
  Keyspace.timeToLive_put_self space _ _ (UInt64.lt_iff_toNat_lt.1 lasting)

end Written

/-- A write succeeds only behind a connection. -/
theorem run_trySet_of_ok {clocks : Clocks} {key : String} {response : Response} {model : String}
    {tokens : UInt64}
    (ok : ((trySet (Keyspace.store paging) clocks key response model tokens).run.run
      (cache, space)).1 = .ok ()) :
    (trySet (Keyspace.store paging) clocks key response model tokens).run.run (cache, space) =
      (.ok (), (cache.connected,
        written cache space clocks.wall key response model tokens)) := by
  rw [trySet, run_bind_of_ok (run_current _)] at ok ⊢
  -- Without a connection the write would have failed, and behind one it does not.
  have connects : (∃ fault, (connect (Keyspace.store paging) clocks.mono).run.run (cache, space) =
      (.error fault, (cache, space))) ∨ _ := run_connect_cases cache space clocks.mono
  rcases connects with ⟨fault, failed⟩ | connected
  · rw [ExceptT.run_bind, StateT.run_bind, failed] at ok
    cases ok
  · rw [run_bind_of_ok connected]
    exact run_send rfl

section Bounded

variable {clocks : Clocks} {key : String} {response : Response} {model : String} {tokens : UInt64}
  {maxSize : UInt64} (fair : paging.Fair) (bounded : cache.config.maxSize = some maxSize)
  (ok : ((trySet (Keyspace.store paging) clocks key response model tokens).run.run
    (cache, space)).1 = .ok ())

include fair bounded ok

/-- Behind a write that succeeds, room is made. -/
theorem run_set_bounded :
    (set (Keyspace.store paging) clocks key response model tokens).run (cache, space) =
      ((), ({ cache.connected with sets := cache.connected.sets + 1 },
        ((written cache space clocks.wall key response model tokens).deleteAll
          (Eviction.select ((written cache space clocks.wall key response model tokens).ranked
            cache.store.keyPrefix) maxSize.toNat)).2)) := by
  have capacity : cache.connected.config.capacity? = some maxSize.toNat := by
    rw [config_connected, Config.capacity?, bounded]
    rfl
  have ready : ({ cache.connected with sets := cache.connected.sets + 1 } : SharedCache).Ready :=
    cache.ready_connected
  have again : ({ cache.connected with sets := cache.connected.sets + 1 } : SharedCache).connected =
      { cache.connected with sets := cache.connected.sets + 1 } :=
    if_pos cache.isConnected_connected
  -- The cache is connected by the write, so making room cannot fail.
  rw [run_set, run_trySet_of_ok ok]
  dsimp only
  rw [capacity]
  dsimp only
  rw [run_tryMakeRoom ready clocks.mono fair, again]
  dsimp only
  rw [store_connected]

variable (lasting : 0 < cache.config.ttl)

include lasting

/-- Behind a write, what was written is found when fewer other keys than the capacity outlast it, and
nothing otherwise. -/
theorem find?_set :
    ((set (Keyspace.store paging) clocks key response model tokens).run
        (cache, space)).2.2.find? (cache.storeKey key) =
      if (space.outlasting cache.store.keyPrefix (cache.storeKey key)
          (Keyspace.reported cache.config.ttlDuration)).length < maxSize.toNat then
        some ⟨(Entry.create clocks.wall key response model tokens
          cache.config.ttlDuration).toJson.text, some (space.now + cache.config.ttlDuration)⟩
      else none := by
  have listed : cache.storeKey key ∈
      (written cache space clocks.wall key response model tokens).under cache.store.keyPrefix := by
    rw [Keyspace.mem_under, Keyspace.contains_eq_true_iff]
    exact ⟨⟨_, find?_written lasting⟩, String.toList_append ▸ List.prefix_append _ _⟩
  -- The written key is ranked as any other, with its whole lifetime ahead.
  have selected := Keyspace.mem_select_ranked_iff listed maxSize.toNat
  rw [timeToLive_written lasting, written, Keyspace.outlasting_put, ← written] at selected
  rw [run_set_bounded fair bounded ok]
  dsimp only
  rw [Keyspace.find?_deleteAll, find?_written lasting]
  split_ifs with gone kept kept
  · exact absurd kept (Nat.not_lt.2 (selected.1 gone))
  · rfl
  · rfl
  · exact absurd (selected.2 (Nat.not_lt.1 kept)) gone

theorem contains_set_iff :
    ((set (Keyspace.store paging) clocks key response model tokens).run
        (cache, space)).2.2.contains (cache.storeKey key) = true ↔
      (space.outlasting cache.store.keyPrefix (cache.storeKey key)
        (Keyspace.reported cache.config.ttlDuration)).length < maxSize.toNat := by
  rw [Keyspace.contains, find?_set fair bounded ok lasting]
  split_ifs with few
  · exact iff_of_true rfl few
  · exact iff_of_false Bool.false_ne_true few

omit lasting in
/-- Behind a write the cache does not pause, and it keeps its keys where they were. -/
theorem ready_set :
    ((set (Keyspace.store paging) clocks key response model tokens).run (cache, space)).2.1.Ready ∧
      ((set (Keyspace.store paging) clocks key response model tokens).run
        (cache, space)).2.1.storeKey key = cache.storeKey key := by
  rw [run_set_bounded fair bounded ok]
  exact ⟨cache.ready_connected, cache.storeKey_connected key⟩

/-- A lookup behind a write finds what the written text is read as when fewer other keys than the
capacity outlast the written one, and nothing otherwise. -/
theorem get_set :
    ((get (Keyspace.store paging) clocks key).run ((set (Keyspace.store paging) clocks key
      response model tokens).run (cache, space)).2).1 =
      if (space.outlasting cache.store.keyPrefix (cache.storeKey key)
          (Keyspace.reported cache.config.ttlDuration)).length < maxSize.toNat then
        unexpired (cache.document clocks.wall key response model tokens).text clocks.wall
      else none := by
  obtain ⟨ready, place⟩ := ready_set fair bounded ok
  rw [run_get_of_ready ready, seen, place, find?_set fair bounded ok lasting]
  split_ifs with few
  · rw [Option.bind_some, document]
  · rw [Option.bind_none]

omit fair bounded ok in
/-- While it is new, the text of an entry that lives for a second at least is read as what was written,
if it can be read back. -/
theorem exists_unexpired_document (wellFormed : response.WellFormed)
    (lossless : (cache.document clocks.wall key response model tokens).Lossless Binary64.readScaled)
    (early : clocks.wall + cache.config.ttlDuration < (2 ^ 53 * nanosPerSecond : Nat))
    (shallow : (cache.document clocks.wall key response model tokens).nesting ≤ Json.maxNesting) :
    ∃ entry, unexpired (cache.document clocks.wall key response model tokens).text clocks.wall =
        some entry ∧
      entry.key = key ∧ entry.response = response ∧ entry.model = model ∧
        entry.tokens = tokens := by
  have fits : clocks.wall + cache.config.ttlDuration < Instant.clockEnd :=
    Int.lt_trans early (by decide)
  have legible := Entry.legible_create wellFormed early lossless shallow
  -- The expiry is read less than a second too early, and a key lives for a second at least.
  obtain ⟨createdAt, expiresAt, read, late⟩ := legible.exists_ofText?
  rw [Entry.create_eq_entry fits] at late
  have second : nanosPerSecond ≤ cache.config.ttlDuration :=
    Nat.le_mul_of_pos_left _ (UInt64.lt_iff_toNat_lt.1 lasting)
  have alive : clocks.wall < expiresAt :=
    Int.lt_of_le_of_lt (Int.le_sub_right_of_add_le
      (Int.add_le_add_left (Int.ofNat_le.2 second) clocks.wall)) late
  rw [unexpired, document, read, Option.filter_some,
    if_pos (by simpa [Entry.isExpiredAt] using alive)]
  exact ⟨_, rfl, rfl, rfl, rfl, rfl⟩

/-- Behind a write that succeeds, the written key is there exactly when fewer other keys than the
capacity outlast it. If so many do, a lookup at the same instant misses; otherwise it finds what the
written text is read as. This is what was written if the text loses no number, unless the document is
nested too deeply to be read. -/
theorem set_kept_iff_few_outlast :
    (((backend (Keyspace.store paging)).step (cache, space)
        ⟨clocks, .set key response model tokens⟩).2.contains (cache.storeKey key) = true ↔
      (space.outlasting cache.store.keyPrefix (cache.storeKey key)
        (Keyspace.reported cache.config.ttlDuration)).length < maxSize.toNat) ∧
    (maxSize.toNat ≤ (space.outlasting cache.store.keyPrefix (cache.storeKey key)
        (Keyspace.reported cache.config.ttlDuration)).length →
      (backend (Keyspace.store paging)).answer ((backend (Keyspace.store paging)).step (cache, space)
        ⟨clocks, .set key response model tokens⟩) ⟨clocks, .get key⟩ = .ok (.found none)) ∧
    ((space.outlasting cache.store.keyPrefix (cache.storeKey key)
        (Keyspace.reported cache.config.ttlDuration)).length < maxSize.toNat →
      (backend (Keyspace.store paging)).answer ((backend (Keyspace.store paging)).step (cache, space)
          ⟨clocks, .set key response model tokens⟩) ⟨clocks, .get key⟩ =
        .ok (.found
          (unexpired (cache.document clocks.wall key response model tokens).text clocks.wall))) ∧
    (response.WellFormed →
      (cache.document clocks.wall key response model tokens).Lossless Binary64.readScaled →
      clocks.wall + cache.config.ttlDuration < (2 ^ 53 * nanosPerSecond : Nat) →
      ((cache.document clocks.wall key response model tokens).nesting ≤ Json.maxNesting →
        ∃ entry, unexpired (cache.document clocks.wall key response model tokens).text clocks.wall =
            some entry ∧
          entry.key = key ∧ entry.response = response ∧ entry.model = model ∧
            entry.tokens = tokens) ∧
      (Json.maxNesting < (cache.document clocks.wall key response model tokens).nesting →
        unexpired (cache.document clocks.wall key response model tokens).text clocks.wall = none)) := by
  have found := get_set fair bounded ok lasting
  refine ⟨contains_set_iff fair bounded ok lasting, ?_, ?_, ?_⟩
  · intro many
    rw [answer_get, step_set, found, if_neg (Nat.not_lt.2 many)]
  · intro few
    rw [answer_get, step_set, found, if_pos few]
  · intro wellFormed lossless early
    refine ⟨exists_unexpired_document lasting wellFormed lossless early, ?_⟩
    intro deep
    rw [unexpired, document, Entry.ofText?_of_deep wellFormed lossless deep]
    rfl

end Bounded

/-- A cache for one key, which lives for a minute. -/
def oneKeyCache : SharedCache :=
  ⟨{ Config.default with ttl := 60, maxSize := some 1 }, .ofUrl "redis://localhost", false, none,
    0, 0, 0⟩

/-- A store in which a key has just been written. -/
def justWritten : Keyspace := ⟨[("cache:b", ⟨"[]", some (60 * nanosPerSecond : Nat)⟩)], 0⟩

/-- A key that is written in the same second as one with an earlier name stays, and is found. -/
theorem set_kept_behind_earlier_name :
    justWritten.contains "cache:b" = true ∧
    ((trySet (Keyspace.store .single) ⟨0, 0⟩ "c" (.ofText "text") "m" 3).run.run
      (oneKeyCache, justWritten)).1 = .ok () ∧
    ((backend (Keyspace.store .single)).step (oneKeyCache, justWritten)
      ⟨⟨0, 0⟩, .set "c" (.ofText "text") "m" 3⟩).2.contains "cache:c" = true ∧
    ∃ entry, (backend (Keyspace.store .single)).answer ((backend (Keyspace.store .single)).step
        (oneKeyCache, justWritten) ⟨⟨0, 0⟩, .set "c" (.ofText "text") "m" 3⟩)
        ⟨⟨0, 0⟩, .get "c"⟩ = .ok (.found (some entry)) ∧
      entry.key = "c" ∧ entry.response = .ofText "text" ∧ entry.model = "m" ∧
        entry.tokens = 3 := by
  have ok : ((trySet (Keyspace.store .single) ⟨0, 0⟩ "c" (.ofText "text") "m" 3).run.run
      (oneKeyCache, justWritten)).1 = .ok () := rfl
  have few : (justWritten.outlasting "cache:" "cache:c"
      (Keyspace.reported oneKeyCache.config.ttlDuration)).length < 1 := by decide +kernel
  have lossless : (oneKeyCache.document 0 "c" (.ofText "text") "m" 3).Lossless
      Binary64.readScaled := by decide +kernel
  have shallow : (oneKeyCache.document 0 "c" (.ofText "text") "m" 3).nesting ≤ Json.maxNesting := by
    rw [document, Entry.nesting_toJson]
    exact Nat.le_of_ble_eq_true rfl
  obtain ⟨kept, -, found, reads⟩ :=
    set_kept_iff_few_outlast Keyspace.Paging.fair_single rfl ok (by decide)
  obtain ⟨entry, read, same⟩ :=
    (reads (Response.wellFormed_ofText _) lossless (by decide)).1 shallow
  refine ⟨rfl, ok, kept.2 few, entry, ?_, same⟩
  rw [found few, read]

/-- A response with a choice of many lists, each in another one. -/
def deepResponse : Response :=
  .ofChoices [(List.range 126).foldl (fun inner _ => .array [inner]) .null]

/-- A key that is written in the same second as one with a later name does not survive its own write,
and one that survives is not found if its document is nested too deeply. -/
theorem set_not_always_found :
    ((trySet (Keyspace.store .single) ⟨0, 0⟩ "a" (.ofText "text") "m" 3).run.run
      (oneKeyCache, justWritten)).1 = .ok () ∧
    ((backend (Keyspace.store .single)).step (oneKeyCache, justWritten)
      ⟨⟨0, 0⟩, .set "a" (.ofText "text") "m" 3⟩).2.contains "cache:a" = false ∧
    (backend (Keyspace.store .single)).answer ((backend (Keyspace.store .single)).step
        (oneKeyCache, justWritten) ⟨⟨0, 0⟩, .set "a" (.ofText "text") "m" 3⟩)
        ⟨⟨0, 0⟩, .get "a"⟩ = .ok (.found none) ∧
    ((backend (Keyspace.store .single)).step (oneKeyCache, justWritten)
      ⟨⟨0, 0⟩, .set "c" deepResponse "m" 3⟩).2.contains "cache:c" = true ∧
    (backend (Keyspace.store .single)).answer ((backend (Keyspace.store .single)).step
        (oneKeyCache, justWritten) ⟨⟨0, 0⟩, .set "c" deepResponse "m" 3⟩)
        ⟨⟨0, 0⟩, .get "c"⟩ = .ok (.found none) := by
  have bounded : oneKeyCache.config.maxSize = some 1 := rfl
  have lasting : 0 < oneKeyCache.config.ttl := by decide
  have ok : ((trySet (Keyspace.store .single) ⟨0, 0⟩ "a" (.ofText "text") "m" 3).run.run
      (oneKeyCache, justWritten)).1 = .ok () := rfl
  have many : ¬ (justWritten.outlasting "cache:" "cache:a"
      (Keyspace.reported oneKeyCache.config.ttlDuration)).length < 1 := by decide +kernel
  have kept := contains_set_iff Keyspace.Paging.fair_single bounded ok lasting
  have missed := (get_set Keyspace.Paging.fair_single bounded ok lasting).trans (if_neg many)
  have okDeep : ((trySet (Keyspace.store .single) ⟨0, 0⟩ "c" deepResponse "m" 3).run.run
      (oneKeyCache, justWritten)).1 = .ok () := rfl
  have few : (justWritten.outlasting "cache:" "cache:c"
      (Keyspace.reported oneKeyCache.config.ttlDuration)).length < 1 := by decide +kernel
  have wellFormed : deepResponse.WellFormed := by
    refine ⟨?_, ⟨.nil, nofun, fun _ _ => rfl⟩⟩
    intro choice mem
    rw [List.mem_singleton.1 mem]
    decide +kernel
  have lossless : (oneKeyCache.document 0 "c" deepResponse "m" 3).Lossless Binary64.readScaled := by
    decide +kernel
  have deep : Json.maxNesting < (oneKeyCache.document 0 "c" deepResponse "m" 3).nesting := by
    rw [document, Entry.nesting_toJson]
    show Json.maxNesting < deepResponse.toJson.nesting + 1
    decide +kernel
  have keptDeep := contains_set_iff Keyspace.Paging.fair_single bounded okDeep lasting
  have read := (get_set Keyspace.Paging.fair_single bounded okDeep lasting).trans (if_pos few)
  refine ⟨ok, Bool.eq_false_iff.2 fun there => many (kept.1 there), ?_, keptDeep.2 few, ?_⟩
  · rw [answer_get, step_set, missed]
  · rw [answer_get, step_set, read, unexpired, document,
      Entry.ofText?_of_deep wellFormed lossless deep]
    rfl

end CompletionCache.SharedCache
