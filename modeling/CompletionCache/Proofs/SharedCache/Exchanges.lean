import CompletionCache.Proofs.Backend.Run
import CompletionCache.Proofs.SharedCache.Faithful
import CompletionCache.Proofs.SharedCache.Mirrors

/-!
# What operations return of what passes

Every operation of the cache in a shared store mirrors itself over the recorded store. A lookup finds
the entry whose text the store returned, if it has not expired (`mirrors_get`); a deletion says what
the store answered it (`mirrors_delete`); no other operation looks a key up.
-/

set_option autoImplicit false

namespace CompletionCache.SharedCache

variable {σ : Type} {store : Store σ} {address : StoreConfig} {α : Type}

/-! ## What is tried -/

/-- The store returned the text of an entry for a key. -/
def Fetched (keyPrefix key : String) (entry : Entry) (exchanges : List Exchange) : Prop :=
  ∃ text, .asked (.get (keyPrefix ++ key)) (.ok (.text text)) ∈ exchanges ∧
    Entry.ofText? text = some entry

/-- A reply that tells of something: a whole number other than zero, or a text that writes a positive
count. A whole number in a reply has 64 bits and a sign, so it may well be negative. -/
def TellsOfSome : Reply → Prop
  | .integer value => Int64.ofInt value ≠ 0
  | .text value => ∃ count, Positional.readUInt64 value.toList = .ok count ∧ 0 < count
  | _ => False

/-- Of the whole numbers of 64 bits only zero counts as nothing: a negative one counts from the other
end of the range of counts. -/
theorem count_eq_zero_iff (value : Int) :
    UInt64.ofNat (value % 0x10000000000000000).toNat = 0 ↔ Int64.ofInt value = 0 := by
  have size : Int64.size = 0x10000000000000000 := rfl
  rw [← UInt64.toNat_inj, ← Int64.toInt_inj, Int64.toInt_ofInt, size, Int.bmod_def,
    UInt64.toNat_ofNat']
  simp only [UInt64.toNat_zero, Int64.toInt_zero]
  split_ifs <;> omega

theorem count_natCast (count : UInt64) :
    UInt64.ofNat ((count.toNat : Int) % 0x10000000000000000).toNat = count := by
  have small := count.toNat_lt
  have whole : ((count.toNat : Int) % 0x10000000000000000).toNat = count.toNat := by omega
  rw [whole, UInt64.ofNat_toNat]

/-- A reply tells of something when it is read as a count of more than zero. -/
theorem tellsOfSome_iff (reply : Reply) :
    TellsOfSome reply ↔ ∃ count, reply.readCount = .ok count ∧ 0 < count := by
  simp only [Reply.readCount, Json.map_eq_ok]
  cases reply with
  | integer value =>
    constructor
    · intro nonzero
      refine ⟨_, ⟨value, rfl, rfl⟩, UInt64.pos_iff_ne_zero.2 ?_⟩
      exact fun none => nonzero ((count_eq_zero_iff value).1 none)
    · rintro ⟨_, ⟨_, read, rfl⟩, some⟩ none
      cases read
      exact UInt64.pos_iff_ne_zero.1 some ((count_eq_zero_iff value).2 none)
  | text value =>
    rw [TellsOfSome, Reply.readNumber]
    cases Positional.readUInt64 value.toList with
    | error fault =>
      constructor
      · rintro ⟨_, impossible, -⟩
        cases impossible
      · rintro ⟨_, ⟨_, impossible, -⟩, -⟩
        cases impossible
    | ok count =>
      constructor
      · rintro ⟨_, read, some⟩
        cases read
        exact ⟨count, ⟨_, rfl, count_natCast count⟩, some⟩
      · rintro ⟨_, ⟨_, read, rfl⟩, some⟩
        cases read
        rw [count_natCast] at some
        exact ⟨count, rfl, some⟩
  -- Any other reply is no number.
  | _ =>
    refine ⟨fun none => none.elim, ?_⟩
    rintro ⟨_, ⟨_, impossible, -⟩, -⟩
    cases impossible

/-- An exchange that connects. -/
abbrev Dialling (exchange : Exchange) : Prop := exchange.isDial = true

/-- An exchange that looks no key up. -/
abbrev Silent (exchange : Exchange) : Prop := exchange.isLookup = false

theorem mirrors_readEntry (text : String) :
    Mirrors (σ := σ) address (readEntry text).run (readEntry text).run fun result exchanges =>
      exchanges = [] ∧ ∀ entry, result = .ok entry ↔ Entry.ofText? text = some entry := by
  rw [readEntry, readEntry]
  cases parsed : Entry.ofText? text with
  | none => exact mirrors_pure ⟨rfl, by simp⟩
  | some entry => exact mirrors_pure ⟨rfl, by simp⟩

/-- A text that the store returned is the one that was read from its answer. -/
theorem fetched_iff {keyPrefix key : String} {result : Except StoreFault (Option String)}
    {exchanges : List Exchange}
    (answered : Answered (.get (keyPrefix ++ key)) Reply.readOptionalText result exchanges)
    (entry : Entry) :
    Fetched keyPrefix key entry exchanges ↔
      ∃ text, result = .ok (some text) ∧ Entry.ofText? text = some entry := by
  have told : ∀ text, result = .ok (some text) ↔
      .asked (.get (keyPrefix ++ key)) (.ok (.text text)) ∈ exchanges := by
    intro text
    rw [answered]
    constructor
    · rintro ⟨reply, mem, read⟩
      rwa [Reply.readOptionalText_eq_some read] at mem
    · intro mem
      exact ⟨.text text, mem, rfl⟩
  simp only [told]
  rfl

/-- Connecting comes first and is about no command. -/
theorem Mirrors.behindConnect {command : Command} {read : Reply → Except CommandFault α}
    {recorded : Attempting (σ × List Exchange) α} {plain : Attempting σ α} (now : Instant)
    (rest : Mirrors address recorded.run plain.run (Answered command read)) :
    Mirrors address (connect store.recorded now >>= fun _ => recorded).run
      (connect store now >>= fun _ => plain).run (Answered command read) := by
  refine (mirrors_connect (fun _ => rfl) now : Mirrors _ _ _ (Within Dialling)).bindExcept ?_ ?_
  · intro fault dials dialled
    have answered := (answered_nil command read fault).behind dialled
    rwa [List.append_nil] at answered
  · intro _ dials dialled
    exact rest.imp fun _ _ answered => answered.behind dialled

/-- Behind a connection, a command returns what is read from the answer to it. -/
theorem mirrors_tell (store : Store σ) (now : Instant) (command : Command) (read : Reply → Except CommandFault α) :
    Mirrors address (connect store.recorded now >>= fun _ => send store.recorded command read).run
      (connect store now >>= fun _ => send store command read).run (Answered command read) :=
  .behindConnect now ((mirrors_send command read).imp fun _ _ sent => sent.2)

/-- A command about a key of the cache is about this key behind the prefix. -/
theorem mirrors_ask (now : Instant) (key : String) (command : String → Command)
    (read : Reply → Except CommandFault α) :
    Mirrors address
      (do
        connect store.recorded now
        send store.recorded (command ((← current).storeKey key)) read : Attempting _ α).run
      (do
        connect store now
        send store (command ((← current).storeKey key)) read : Attempting _ α).run
      (Answered (command (address.keyPrefix ++ key)) read) := by
  apply Mirrors.behindConnect
  refine mirrors_current.bindExcept ?_ ?_
  · rintro _ _ ⟨_, ok, -⟩
    cases ok
  rintro cache _ ⟨_, ok, kept, rfl⟩
  obtain rfl := Except.ok.inj ok
  rw [storeKey, kept]
  exact (mirrors_send _ _).imp fun _ _ sent => sent.2

/-- A lookup reads the text that the store returned, if it returned one. -/
theorem tryGet_eq (store : Store σ) (now : Instant) (key : String) :
    tryGet store now key = ((do
      connect store now
      send store (.get ((← current).storeKey key)) Reply.readOptionalText) >>= fun found =>
        found.elim (pure none) fun text => some <$> readEntry text) := by
  rw [tryGet, bind_assoc]
  simp only [bind_assoc]
  refine congrArg _ (funext fun _ => congrArg _ (funext fun cache => congrArg _ (funext ?_)))
  intro found
  cases found <;> rfl

/-- A lookup finds the entry whose text the store returned, and nothing else. -/
theorem mirrors_tryGet (now : Instant) (key : String) :
    Mirrors address (tryGet store.recorded now key).run (tryGet store now key).run
      fun result exchanges =>
        ∀ entry, result = .ok (some entry) ↔ Fetched address.keyPrefix key entry exchanges := by
  rw [tryGet_eq, tryGet_eq]
  refine (mirrors_ask now key .get Reply.readOptionalText).bindExcept ?_ ?_
  · intro fault exchanges answered entry
    rw [fetched_iff answered]
    simp
  intro found exchanges answered
  cases found with
  | none =>
    apply mirrors_pure
    intro entry
    rw [List.append_nil, fetched_iff answered]
    simp
  | some text =>
    -- The text that the store returned is the one that is read.
    simp only [Option.elim_some, ExceptT.run_map]
    apply Mirrors.map
    refine (mirrors_readEntry text).imp ?_
    rintro result _ ⟨rfl, reads⟩ entry
    rw [List.append_nil, fetched_iff answered]
    have unread := reads entry
    cases result with
    | error fault => simpa [Except.map] using unread
    | ok read => simpa [Except.map] using unread

/-- A deletion returns the count that is read from the answer to it. -/
theorem mirrors_tryDelete (now : Instant) (key : String) :
    Mirrors address (tryDelete store.recorded now key).run (tryDelete store now key).run
      (Answered (.delete [address.keyPrefix ++ key]) Reply.readCount) :=
  mirrors_ask now key (fun key => .delete [key]) Reply.readCount

theorem mirrors_trySet (clocks : Clocks) (key : String) (response : Response) (model : String)
    (tokens : UInt64) :
    Mirrors address (trySet store.recorded clocks key response model tokens).run
      (trySet store clocks key response model tokens).run (Within Silent) := by
  rw [trySet, trySet]
  refine mirrors_look.bindExceptWithin fun cache => ?_
  refine (mirrors_connect (fun _ => rfl) clocks.mono).bindExceptWithin fun _ => ?_
  exact mirrors_sendWithin (fun _ => rfl) _

theorem mirrors_tryMakeRoom (now : Instant) (maxSize : Nat) :
    Mirrors address (tryMakeRoom store.recorded now maxSize).run
      (tryMakeRoom store now maxSize).run (Within Silent) := by
  rw [tryMakeRoom, tryMakeRoom]
  refine (mirrors_connect (fun _ => rfl) now).bindExceptWithin fun _ => ?_
  refine (mirrors_scan fun _ _ _ _ => rfl).bindExceptWithin fun keys => ?_
  split
  · exact mirrors_pure (within_nil _)
  · refine (mirrors_sendAll ?_ _).bindExceptWithin fun ttls => ?_
    · intro command mem answer
      obtain ⟨key, -, rfl⟩ := List.mem_map.1 mem
      rfl
    · exact mirrors_deleteKeys (fun _ _ => rfl) _

theorem mirrors_tryClear (now : Instant) :
    Mirrors address (tryClear store.recorded now).run (tryClear store now).run
      (Within Silent) := by
  rw [tryClear, tryClear]
  refine (mirrors_connect (fun _ => rfl) now).bindExceptWithin fun _ => ?_
  refine (mirrors_scan fun _ _ _ _ => rfl).bindExceptWithin fun keys => ?_
  exact mirrors_deleteKeys (fun _ _ => rfl) keys

theorem mirrors_tryCount (now : Instant) :
    Mirrors address (tryCount store.recorded now).run (tryCount store now).run
      (Within Silent) := by
  rw [tryCount, tryCount]
  refine (mirrors_connect (fun _ => rfl) now).bindExceptWithin fun _ => ?_
  refine (mirrors_scan fun _ _ _ _ => rfl).bindExceptWithin fun keys => ?_
  exact mirrors_pure (within_nil _)

theorem mirrors_tryHealth (now : Instant) :
    Mirrors address (tryHealth store.recorded now).run (tryHealth store now).run
      (Within Silent) := by
  rw [tryHealth, tryHealth]
  refine mirrors_waited.bindExceptWithin fun before => ?_
  refine (mirrors_connect (fun _ => rfl) now).bindExceptWithin fun _ => ?_
  refine (mirrors_sendWithin (fun _ => rfl) _).bindExceptWithin fun _ => ?_
  refine mirrors_waited.bindExceptWithin fun behind => ?_
  refine (mirrors_scan fun _ _ _ _ => rfl).bindExceptWithin fun keys => ?_
  exact mirrors_pure (within_nil _)

/-! ## Operations -/

/-- An action that goes on with the state as it is. -/
theorem Mirrors.ofState {next : SharedCache × σ × List Exchange →
      StateM (SharedCache × σ × List Exchange) α}
    {nextPlain : SharedCache × σ → StateM (SharedCache × σ) α} {Post : α → List Exchange → Prop}
    (rest : ∀ cache state record,
      Mirrors address (next (cache, state, record)) (nextPlain (cache, state)) Post) :
    Mirrors address (getThe (SharedCache × σ × List Exchange) >>= next)
      (getThe (SharedCache × σ) >>= nextPlain) Post :=
  fun cache state record kept => rest cache state record cache state record kept

theorem live_eq_some_iff (clocks : Clocks) (fetched : Except StoreFault (Option Entry))
    (entry : Entry) :
    live clocks fetched = some entry ↔
      fetched = .ok (some entry) ∧ entry.isExpiredAt clocks.wall = false := by
  constructor
  · intro found
    obtain rfl := eq_ok_of_live_eq_some found
    refine ⟨rfl, ?_⟩
    by_contra expired
    simp [live, expired] at found
  · rintro ⟨rfl, alive⟩
    simp [live, alive]

/-- The store returned the text of an entry for a key, and the entry has not expired. -/
def Hit (keyPrefix key : String) (now : Instant) (exchanges : List Exchange) (entry : Entry) :
    Prop :=
  Fetched keyPrefix key entry exchanges ∧ entry.isExpiredAt now = false

/-- Whether there was something is what the answer to the deletion of a key tells. -/
def TellsRemoved (keyPrefix key : String) (exchanges : List Exchange) (existed : Bool) : Prop :=
  existed = true ↔
    ∃ reply, .asked (.delete [keyPrefix ++ key]) (.ok reply) ∈ exchanges ∧ TellsOfSome reply

/-- A lookup finds the entry whose text the store returned, if it has not expired. -/
theorem mirrors_get (clocks : Clocks) (key : String) :
    Mirrors address (get store.recorded clocks key) (get store clocks key)
      fun found exchanges => ∀ entry, found = some entry ↔
        Hit address.keyPrefix key clocks.wall exchanges entry := by
  refine (mirrors_tryGet clocks.mono key).bind fun fetched exchanges fetches => ?_
  have counts : ∀ hit : Option Entry,
      Mirrors (σ := σ) address (modify fun state => (state.1.counted hit, state.2))
        (modify fun state => (state.1.counted hit, state.2)) fun _ others => others = [] :=
    fun hit => mirrors_modify (fun cache => store_counted cache hit) rfl
  refine (counts (live clocks fetched)).bind fun _ others none => ?_
  subst none
  apply mirrors_pure
  intro entry
  rw [List.append_nil, List.append_nil, Hit, ← fetches entry]
  exact live_eq_some_iff clocks fetched entry

theorem mirrors_set (clocks : Clocks) (key : String) (response : Response) (model : String)
    (tokens : UInt64) :
    Mirrors address (set store.recorded clocks key response model tokens)
      (set store clocks key response model tokens) (Within Silent) := by
  refine (mirrors_trySet clocks key response model tokens).bindWithin fun written => ?_
  cases written with
  | error fault => exact mirrors_pure (within_nil _)
  | ok done =>
    apply Mirrors.bindWithin
    · apply mirrors_modify
      · exact fun _ => rfl
      · exact within_nil _
    · intro _
      refine Mirrors.ofState fun cache state record => ?_
      dsimp only
      cases cache.config.capacity? with
      | none => exact mirrors_pure (within_nil _)
      | some maxSize =>
        refine (mirrors_tryMakeRoom clocks.mono maxSize).bindWithin fun _ => ?_
        exact mirrors_pure (within_nil _)

/-- A deletion says that there was something if the answer to it tells so. -/
theorem mirrors_delete (clocks : Clocks) (key : String) :
    Mirrors address (delete store.recorded clocks key) (delete store clocks key)
      fun existed exchanges => TellsRemoved address.keyPrefix key exchanges existed := by
  refine (mirrors_tryDelete clocks.mono key).bind fun deleted exchanges answered => ?_
  have told : (∃ reply, .asked (.delete [address.keyPrefix ++ key]) (.ok reply) ∈ exchanges ∧
      TellsOfSome reply) ↔ ∃ count, deleted = .ok count ∧ 0 < count := by
    simp only [tellsOfSome_iff, answered _]
    constructor
    · rintro ⟨reply, mem, count, read, some⟩
      exact ⟨count, ⟨reply, mem, read⟩, some⟩
    · rintro ⟨count, ⟨reply, mem, read⟩, some⟩
      exact ⟨reply, mem, count, read, some⟩
  cases deleted with
  | error fault =>
    apply mirrors_pure
    simp [TellsRemoved, told]
  | ok count =>
    apply mirrors_pure
    simp [TellsRemoved, told, UInt64.pos_iff_ne_zero]

theorem mirrors_clear (clocks : Clocks) :
    Mirrors address (clear store.recorded clocks) (clear store clocks) (Within Silent) := by
  refine (mirrors_tryClear clocks.mono).bindWithin fun _ => ?_
  apply mirrors_modify
  · exact fun _ => rfl
  · exact within_nil _

theorem mirrors_stats (clocks : Clocks) :
    Mirrors address (stats store.recorded clocks) (stats store clocks) (Within Silent) := by
  refine (mirrors_tryCount clocks.mono).bindWithin fun counted => ?_
  exact Mirrors.ofState fun cache state record => mirrors_pure (within_nil _)

theorem mirrors_health (clocks : Clocks) :
    Mirrors address (health store.recorded clocks) (health store clocks) (Within Silent) := by
  refine (mirrors_tryHealth clocks.mono).bindWithin fun answer => ?_
  exact Mirrors.ofState fun cache state record => mirrors_pure (within_nil _)

/-- An operation does not fail. A lookup finds what is hit, and a deletion tells what it was
answered. -/
def FailsOpen (keyPrefix : String) (event : Event) (result : Result Answer)
    (exchanges : List Exchange) : Prop :=
  match event.operation with
  | .get key => ∃ found, result = .ok (.found found) ∧
      ∀ entry, found = some entry ↔ Hit keyPrefix key event.clocks.wall exchanges entry
  | .set _ _ _ _ => result = .ok .done
  | .delete key => ∃ existed, result = .ok (.removed existed) ∧
      TellsRemoved keyPrefix key exchanges existed
  | .clear => result = .ok .done
  | .stats => ∃ stats, result = .ok (.stats stats)
  | .health => ∃ report, result = .ok (.health report)

section Events

variable (store) (clocks : Clocks)

theorem perform_get (key : String) :
    ((backend store).perform ⟨clocks, .get key⟩).run =
      (fun found => .ok (.found found)) <$> get store clocks key := rfl

theorem perform_set (key : String) (response : Response) (model : String) (tokens : UInt64) :
    ((backend store).perform ⟨clocks, .set key response model tokens⟩).run =
      (fun _ => .ok .done) <$> set store clocks key response model tokens := rfl

theorem perform_delete (key : String) :
    ((backend store).perform ⟨clocks, .delete key⟩).run =
      (fun existed => .ok (.removed existed)) <$> delete store clocks key := rfl

theorem perform_clear :
    ((backend store).perform ⟨clocks, .clear⟩).run =
      (fun _ => .ok .done) <$> clear store clocks := rfl

theorem perform_stats :
    ((backend store).perform ⟨clocks, .stats⟩).run =
      (fun stats => .ok (.stats stats)) <$> stats store clocks := rfl

theorem perform_health :
    ((backend store).perform ⟨clocks, .health⟩).run =
      (fun report => .ok (.health report)) <$> health store clocks := rfl

end Events

/-- Every operation of the backend fails open. -/
theorem mirrors_perform (event : Event) :
    Mirrors address ((backend store.recorded).perform event).run
      ((backend store).perform event).run (FailsOpen address.keyPrefix event) := by
  obtain ⟨clocks, operation⟩ := event
  cases operation with
  | get key =>
    rw [perform_get, perform_get]
    apply Mirrors.map
    refine (mirrors_get clocks key).imp ?_
    intro found exchanges finds
    exact ⟨found, rfl, finds⟩
  | set key response model tokens =>
    rw [perform_set, perform_set]
    apply Mirrors.map
    refine (mirrors_set clocks key response model tokens).imp ?_
    exact fun _ _ _ => rfl
  | delete key =>
    rw [perform_delete, perform_delete]
    apply Mirrors.map
    refine (mirrors_delete clocks key).imp ?_
    intro existed exchanges tells
    exact ⟨existed, rfl, tells⟩
  | clear =>
    rw [perform_clear, perform_clear]
    apply Mirrors.map
    refine (mirrors_clear clocks).imp ?_
    exact fun _ _ _ => rfl
  | stats =>
    rw [perform_stats, perform_stats]
    apply Mirrors.map
    refine (mirrors_stats clocks).imp ?_
    exact fun stats _ _ => ⟨stats, rfl⟩
  | health =>
    rw [perform_health, perform_health]
    apply Mirrors.map
    refine (mirrors_health clocks).imp ?_
    exact fun report _ _ => ⟨report, rfl⟩

end CompletionCache.SharedCache
