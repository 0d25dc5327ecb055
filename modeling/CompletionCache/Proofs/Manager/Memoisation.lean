import CompletionCache.Proofs.LocalCache.LastWrite
import CompletionCache.Proofs.Manager.Erasure

/-!
# When a computation is run

Queries are calls that may compute, each with the instants at which it begins and at which its
computation ends. What a query has computed and kept is a success under its key (`successes`). Behind a
run over a cache in process without a capacity, a reader sees under every key the latest success that
still lasts (`Remembers.ask`, `remembers_history`). Hence `computes_iff_no_success_lasts`: an eligible
query runs its computation exactly if no success lasts any more, and else it returns the latest one.
-/

set_option autoImplicit false

namespace CompletionCache

/-! ## Lifetimes -/

/-- Whether what was written lives at an instant: its lifetime ends behind it, and the clock can hold
that end. -/
def Write.lasts (write : Write) (ttl : Duration) (now : Instant) : Bool :=
  decide (write.time + ttl < Instant.clockEnd) && decide (now < write.time + ttl)

theorem Write.lasts_eq_true_iff {write : Write} {ttl : Duration} {now : Instant} :
    write.lasts ttl now = true ↔
      write.time + ttl < Instant.clockEnd ∧ now < write.time + ttl := by
  rw [lasts, Bool.and_eq_true, decide_eq_true_eq, decide_eq_true_eq]

theorem Write.lasts_of_le {write : Write} {ttl : Duration} {earlier later : Instant}
    (order : earlier ≤ later) (lasts : write.lasts ttl later = true) :
    write.lasts ttl earlier = true := by
  rw [lasts_eq_true_iff] at lasts ⊢
  exact ⟨lasts.1, Int.lt_of_le_of_lt order lasts.2⟩

/-- A valid config has no lifetime that is longer than the longest one. -/
theorem Config.ttlDuration_le_of_validate {config : Config} (valid : config.validate = .ok ()) :
    config.ttlDuration ≤ Duration.ofSeconds maxTtl.toNat := by
  rw [validate] at valid
  cases found : config.fault? with
  | some fault =>
    rw [found] at valid
    cases valid
  | none =>
    rw [fault?] at found
    split at found
    · cases found
    split at found
    · cases found
    · next bounded =>
      rw [ttlDuration, Duration.ofSeconds, Duration.ofSeconds]
      exact Nat.mul_le_mul_right _ (UInt64.le_iff_toNat_le.1 (UInt64.not_lt.1 bounded))

/-- Unless the lifetime is too long to be allowed, the clock holds its end, or the entry expires when it
is made. -/
theorem Entry.expiry_eq {now : Instant} {ttl : Duration}
    (allowed : ttl ≤ Duration.ofSeconds Config.maxTtl.toNat) :
    expiry now ttl = if now + ttl < Instant.clockEnd then now + ttl else now := by
  by_cases fits : now + ttl < Instant.clockEnd
  · rw [expiry_of_fits fits, if_pos fits]
  · -- Where the lifetime does not fit, the longest one does not fit either.
    have past : Instant.clockEnd ≤ now + ttl := Int.not_lt.1 fits
    have longer : now + ttl ≤ now + longestLifetime := add_le_add_iff.2 allowed
    rw [expiry_of_past past, if_neg fits, if_neg (Int.not_lt.2 (Int.le_trans past longer))]

/-- What a reader sees of a write when nothing else decides its key. -/
theorem Entry.filter_create (write : Write) {ttl : Duration}
    (allowed : ttl ≤ Duration.ofSeconds Config.maxTtl.toNat) {now : Instant}
    (past : write.time ≤ now) (key : String) :
    (some (Entry.create write.time key write.response write.model write.tokens ttl)).filter
        (fun entry => !entry.isExpiredAt now) =
      if write.lasts ttl now then some (write.entry key ttl) else none := by
  by_cases fits : write.time + ttl < Instant.clockEnd
  · rw [Entry.create_eq_entry fits]
    by_cases alive : now < write.time + ttl
    · simp [Write.entry, Write.lasts, isExpiredAt, Option.filter, fits, alive, Int.not_le.2 alive]
    · simp [Write.entry, Write.lasts, isExpiredAt, Option.filter, Int.not_lt.1 alive, alive]
  · -- The clock cannot hold the end, so the entry has expired when it is made.
    simp [Entry.create, Entry.expiry_eq allowed, fits, isExpiredAt, Write.lasts, past]

namespace Manager

variable {ε : Type}

/-! ## Queries -/

/-- A call that may compute: when it begins and when its computation ends, and what that gives. -/
structure Query (ε : Type) where
  asked : Clocks
  ended : Clocks
  request : Request
  compute : Except ε Response

/-- The key under which the response to a query is kept. -/
def Query.key (query : Query ε) : String := query.request.fingerprint.hash

/-- The readings of the wall clock that queries make. -/
def readings (queries : List (Query ε)) : List Instant :=
  queries.flatMap fun query => [query.asked.wall, query.ended.wall]

/-- Each query begins when the one before it has ended, by a clock that does not go back. -/
def InSequence (queries : List (Query ε)) : Prop := (readings queries).Pairwise (· ≤ ·)

instance (queries : List (Query ε)) : Decidable (InSequence queries) :=
  inferInstanceAs (Decidable ((readings queries).Pairwise (· ≤ ·)))

theorem InSequence.of_append_singleton {queries : List (Query ε)} {query : Query ε}
    (inSequence : InSequence (queries ++ [query])) :
    InSequence queries ∧ ∀ reading ∈ readings queries, reading ≤ query.asked.wall := by
  rw [InSequence, readings, List.flatMap_append, List.pairwise_append] at inSequence
  exact ⟨inSequence.1, fun reading mem => inSequence.2.2 reading mem _ (by simp)⟩

section Ask

variable {σ : Type} (manager : Manager σ) (wrap : Error → ε)

/-- What a manager does on a query. -/
def ask (query : Query ε) : StateM σ (Outcome ε) :=
  manager.getOrComputeUntil query.asked query.ended query.request wrap query.compute

variable {manager wrap}

/-- A failure is returned as it is, and nothing is written behind the lookup. -/
theorem run_ask_of_error {query : Query ε} {failure : ε} (given : query.compute = .error failure)
    {state after : σ} {outcome : Outcome ε}
    (asked : (manager.ask wrap query).run state = (outcome, after)) :
    after = ((manager.getResponse query.asked query.request).run.run state).2 ∧
      (outcome.computed = true → outcome.result = .error failure) := by
  generalize looked : (manager.getResponse query.asked query.request).run.run state = result
  obtain ⟨found, behind⟩ := result
  unfold ask getOrComputeUntil at asked
  rw [run_bind_of_eq looked, given] at asked
  -- Only a lookup that comes through and finds nothing is followed by the computation.
  cases found with
  | error fault =>
    cases asked
    exact ⟨rfl, nofun⟩
  | ok found =>
    cases found with
    | some response =>
      cases asked
      exact ⟨rfl, nofun⟩
    | none =>
      cases asked
      exact ⟨rfl, fun _ => rfl⟩

end Ask

/-- The success of a query under a key: an eligible query ran its computation and was given a response,
which is kept from the end of the computation on. -/
def success? (config : Config) (key : String) : Query ε × Outcome ε → Option Write
  | (query, outcome) =>
    match query.compute with
    | .ok response =>
      if config.admits query.request ∧ outcome.computed ∧ query.key = key then
        some ⟨query.ended.wall, response, query.request.model, response.totalTokens⟩
      else none
    | .error _ => none

/-- The successes under a key, the latest one last. -/
def successes (config : Config) (key : String) (past : List (Query ε × Outcome ε)) : List Write :=
  past.filterMap (success? config key)

/-- The successes under a key that last, the latest one last. -/
def lasting (config : Config) (ttl : Duration) (key : String) (past : List (Query ε × Outcome ε))
    (now : Instant) : List Write :=
  (successes config key past).filter fun write => write.lasts ttl now

section Lasting

variable {config : Config} {ttl : Duration} {key : String} {past : List (Query ε × Outcome ε)}

theorem lasting_eq_nil_iff {now : Instant} :
    lasting config ttl key past now = [] ↔
      ∀ write ∈ successes config key past, write.lasts ttl now = false := by
  simp [lasting, List.filter_eq_nil_iff]

/-- What has come to its end does not last any more. -/
theorem lasting_eq_nil_of_le {earlier later : Instant} (order : earlier ≤ later)
    (ended : lasting config ttl key past earlier = []) :
    lasting config ttl key past later = [] := by
  rw [lasting_eq_nil_iff] at ended ⊢
  intro write mem
  rw [Bool.eq_false_iff]
  intro lasts
  have before := ended write mem
  rw [Write.lasts_of_le order lasts] at before
  cases before

theorem lasting_append_none {call : Query ε × Outcome ε} (nothing : success? config key call = none)
    (now : Instant) :
    lasting config ttl key (past ++ [call]) now = lasting config ttl key past now := by
  rw [lasting, successes, List.filterMap_append, List.filterMap_cons_none nothing]
  simp [lasting, successes]

theorem lasting_append_some {call : Query ε × Outcome ε} {write : Write}
    (success : success? config key call = some write) (now : Instant) :
    lasting config ttl key (past ++ [call]) now =
      lasting config ttl key past now ++ if write.lasts ttl now then [write] else [] := by
  rw [lasting, successes, List.filterMap_append, List.filterMap_cons_some success, List.filter_append,
    List.filterMap_nil, List.filter_cons, List.filter_nil]
  rfl

end Lasting

/-! ## One query -/

/-- A query that is not eligible runs its computation, and nothing else happens. -/
theorem run_ask_of_not_admits {config : Config} {query : Query ε}
    (aside : config.admits query.request = false) (wrap : Error → ε) (cache : LocalCache) :
    ((inProcess config).ask wrap query).run cache = (⟨query.compute, true⟩, cache) := by
  have aside : (inProcess config).config.admits query.request = false := aside
  rw [ask, run_getOrComputeUntil_of_not_admits aside]

section Ask

variable {config : Config} {cache : LocalCache} {query : Query ε} {wrap : Error → ε}
  (nodup : cache.entries.keys.Nodup) (admitted : config.admits query.request = true)

include nodup admitted

/-- A lookup by request returns the response that a reader sees. -/
theorem run_getResponse_of_admits (clocks : Clocks) :
    ((inProcess config).getResponse clocks query.request).run.run cache =
      (.ok ((cache.view clocks.wall query.key).map (·.response)), (cache.get clocks query.key).2) := by
  have looked : (LocalCache.backend.get clocks query.key).run.run cache =
      (.ok (cache.view clocks.wall query.key), (cache.get clocks query.key).2) := by
    rw [← LocalCache.get_fst nodup]
    rfl
  rw [getResponse, if_pos (by exact admitted)]
  refine (run_bind_of_ok looked).trans ?_
  cases seen : cache.view clocks.wall query.key with
  | none => rfl
  | some entry =>
    -- What a reader sees has not expired, so the manager returns it.
    have alive := ((LocalCache.view_eq_some_iff _ _ _ _).1 seen).2
    dsimp only
    rw [alive]
    rfl

theorem run_ask_of_seen {entry : Entry} (seen : cache.view query.asked.wall query.key = some entry) :
    ((inProcess config).ask wrap query).run cache =
      (⟨.ok entry.response, false⟩, (cache.get query.asked query.key).2) := by
  have looked := run_getResponse_of_admits nodup admitted query.asked
  rw [seen] at looked
  unfold ask getOrComputeUntil
  rw [run_bind_of_eq looked]
  rfl

/-- Where a reader sees nothing, the computation is run, and its success is kept. -/
theorem run_ask_of_unseen (unseen : cache.view query.asked.wall query.key = none) :
    ((inProcess config).ask wrap query).run cache =
      (⟨query.compute, true⟩, match query.compute with
        | .error _ => (cache.get query.asked query.key).2
        | .ok response => (cache.get query.asked query.key).2.set query.ended query.key response
            query.request.model response.totalTokens) := by
  have looked := run_getResponse_of_admits nodup admitted query.asked
  rw [unseen] at looked
  unfold ask getOrComputeUntil
  rw [run_bind_of_eq looked]
  cases query.compute with
  | error failure => rfl
  | ok response =>
    have kept : ((inProcess config).cacheResponse query.ended query.request response).run.run
        (cache.get query.asked query.key).2 = (.ok (), (cache.get query.asked query.key).2.set
          query.ended query.key response query.request.model response.totalTokens) := by
      rw [cacheResponse, if_pos (by exact admitted)]
      rfl
    dsimp only [Option.map_none]
    rw [run_bind_of_eq kept]
    rfl

end Ask

/-! ## Runs -/

/-- What a reader sees under a key is the latest success that lasts. -/
structure Remembers (config settings : Config) (past : List (Query ε × Outcome ε))
    (cache : LocalCache) : Prop where
  configured : cache.config = settings
  nodup : cache.entries.keys.Nodup
  seen : ∀ now, (∀ reading ∈ readings (past.map (·.1)), reading ≤ now) → ∀ key,
    cache.view now key = (lasting config settings.ttlDuration key past now).getLast?.map
      fun write => write.entry key settings.ttlDuration

section Runs

variable {config settings : Config} {past : List (Query ε × Outcome ε)} {cache : LocalCache}

theorem remembers_fresh (interval : Duration) (mono : Instant) :
    Remembers config settings ([] : List (Query ε × Outcome ε))
      (LocalCache.fresh settings interval mono) :=
  ⟨rfl, List.nodup_nil, fun _ _ _ => rfl⟩

theorem forall_readings_append_singleton {call : Query ε × Outcome ε} {now : Instant} :
    (∀ reading ∈ readings ((past ++ [call]).map (·.1)), reading ≤ now) ↔
      (∀ reading ∈ readings (past.map (·.1)), reading ≤ now) ∧ call.1.asked.wall ≤ now ∧
        call.1.ended.wall ≤ now := by
  simp [readings, or_imp, forall_and]

/-- A query that has no success, and leaves what a reader sees, leaves what is remembered. -/
theorem Remembers.behind_failure (remembers : Remembers config settings past cache)
    {call : Query ε × Outcome ε} (nothing : ∀ key, success? config key call = none)
    {after : LocalCache} (configured : after.config = cache.config)
    (nodup : after.entries.keys.Nodup)
    (same : ∀ now, call.1.asked.wall ≤ now → ∀ key, after.view now key = cache.view now key) :
    Remembers config settings (past ++ [call]) after := by
  refine ⟨configured.trans remembers.configured, nodup, ?_⟩
  intro now behind key
  obtain ⟨before, asked, -⟩ := forall_readings_append_singleton.1 behind
  rw [same now asked key, lasting_append_none (nothing key), remembers.seen now before key]

/-- A success behind a lookup that found nothing is all that is remembered under its key. -/
theorem Remembers.behind_success (remembers : Remembers config settings past cache)
    (valid : settings.validate = .ok ()) (unbounded : settings.maxSize = none) {query : Query ε}
    (before : ∀ reading ∈ readings (past.map (·.1)), reading ≤ query.asked.wall)
    (admitted : config.admits query.request = true)
    (unseen : cache.view query.asked.wall query.key = none) {response : Response}
    (given : query.compute = .ok response) :
    Remembers config settings (past ++ [(query, ⟨.ok response, true⟩)])
      ((cache.get query.asked query.key).2.set query.ended query.key response query.request.model
        response.totalTokens) := by
  have nodup := LocalCache.nodup_keys_get remembers.nodup query.asked query.key
  have configured : (cache.get query.asked query.key).2.config = settings :=
    (LocalCache.config_get _ _ _).trans remembers.configured
  refine ⟨(LocalCache.config_set _ _ _ _ _ _).trans configured,
    LocalCache.nodup_keys_set nodup _ _ _ _ _, ?_⟩
  intro now behind key
  obtain ⟨earlier, asked, ended⟩ := forall_readings_append_singleton.1 behind
  by_cases same : query.key = key
  · subst same
    have success : success? config query.key (query, ⟨.ok response, true⟩) =
        some ⟨query.ended.wall, response, query.request.model, response.totalTokens⟩ := by
      simp [success?, given, admitted]
    -- The lookup found nothing, so no other success lasts, then or later.
    have others : lasting config settings.ttlDuration query.key past now = [] := by
      rw [remembers.seen _ before, Option.map_eq_none_iff, List.getLast?_eq_none_iff] at unseen
      exact lasting_eq_nil_of_le asked unseen
    rw [lasting_append_some success, others, LocalCache.view, LocalCache.find?_set_self, configured,
      Entry.filter_create ⟨query.ended.wall, response, query.request.model, response.totalTokens⟩
        (Config.ttlDuration_le_of_validate valid) ended]
    split <;> rfl
  · have nothing : success? config key (query, ⟨.ok response, true⟩) = none := by
      simp [success?, given, same]
    rw [LocalCache.view_set nodup (by rw [configured, unbounded]) ended _ _ _ (Ne.symm same),
      LocalCache.view_get remembers.nodup asked, lasting_append_none nothing,
      remembers.seen now earlier]

/-- A query adds its success to what is remembered, and else changes nothing about it. -/
theorem Remembers.ask (remembers : Remembers config settings past cache)
    (valid : settings.validate = .ok ()) (unbounded : settings.maxSize = none) (wrap : Error → ε)
    {query : Query ε} (before : ∀ reading ∈ readings (past.map (·.1)), reading ≤ query.asked.wall) :
    Remembers config settings
      (past ++ [(query, (((inProcess config).ask wrap query).run cache).1)])
      (((inProcess config).ask wrap query).run cache).2 := by
  have nodup := remembers.nodup
  -- Behind a lookup alone a reader sees what was there before.
  have looked : ∀ {outcome : Outcome ε},
      (∀ key, success? config key (query, outcome) = none) →
      Remembers config settings (past ++ [(query, outcome)])
        (cache.get query.asked query.key).2 := fun nothing =>
    remembers.behind_failure nothing (LocalCache.config_get _ _ _)
      (LocalCache.nodup_keys_get nodup _ _) fun _ asked => LocalCache.view_get nodup asked _
  cases admitted : config.admits query.request with
  | false =>
    rw [run_ask_of_not_admits admitted]
    refine remembers.behind_failure ?_ rfl nodup fun _ _ _ => rfl
    intro key
    simp only [success?, admitted]
    split <;> rfl
  | true =>
    cases seen : cache.view query.asked.wall query.key with
    | some entry =>
      rw [run_ask_of_seen nodup admitted seen]
      refine looked fun key => ?_
      simp only [success?]
      split <;> simp
    | none =>
      rw [run_ask_of_unseen nodup admitted seen]
      cases given : query.compute with
      | error failure => exact looked fun key => by simp only [success?, given]
      | ok response => exact remembers.behind_success valid unbounded before admitted seen given

/-- Behind a run, a reader sees under every key the latest success that lasts. -/
theorem remembers_history (valid : settings.validate = .ok ()) (unbounded : settings.maxSize = none)
    (interval : Duration) (mono : Instant) (wrap : Error → ε) {queries : List (Query ε)}
    (inSequence : InSequence queries) :
    Remembers config settings
      ((history ((inProcess config).ask wrap) queries).run
        (LocalCache.fresh settings interval mono)).1
      ((history ((inProcess config).ask wrap) queries).run
        (LocalCache.fresh settings interval mono)).2 := by
  induction queries using List.reverseRecOn with
  | nil => exact remembers_fresh interval mono
  | append_singleton queries query ih =>
    obtain ⟨sooner, before⟩ := inSequence.of_append_singleton
    rw [run_history_append_singleton]
    refine (ih sooner).ask valid unbounded wrap ?_
    rwa [map_fst_history]

/-- An eligible query computes exactly if nothing that is remembered under its key lasts any more, and
else returns the latest success. -/
theorem Remembers.ask_of_admits (remembers : Remembers config settings past cache) (wrap : Error → ε)
    {query : Query ε} (before : ∀ reading ∈ readings (past.map (·.1)), reading ≤ query.asked.wall)
    (admitted : config.admits query.request = true) {outcome : Outcome ε} {after : LocalCache}
    (asked : ((inProcess config).ask wrap query).run cache = (outcome, after)) :
    (outcome.computed = true ↔ ∀ write ∈ successes config query.key past,
      write.lasts settings.ttlDuration query.asked.wall = false) ∧
    (outcome.computed = true → outcome.result = query.compute) ∧
    (outcome.computed = false → ∃ write,
      (lasting config settings.ttlDuration query.key past query.asked.wall).getLast? = some write ∧
        outcome.result = .ok write.response) := by
  have seen := remembers.seen _ before query.key
  rw [← lasting_eq_nil_iff]
  cases latest : (lasting config settings.ttlDuration query.key past query.asked.wall).getLast? with
  | none =>
    rw [latest] at seen
    rw [run_ask_of_unseen remembers.nodup admitted seen] at asked
    cases asked
    exact ⟨iff_of_true rfl (List.getLast?_eq_none_iff.1 latest), fun _ => rfl, nofun⟩
  | some write =>
    rw [latest] at seen
    rw [run_ask_of_seen remembers.nodup admitted seen] at asked
    cases asked
    refine ⟨iff_of_false nofun ?_, nofun, fun _ => ⟨write, rfl, rfl⟩⟩
    intro ended
    rw [ended] at latest
    cases latest

/-- For an eligible query, the computation is run exactly if no success under its key lasts any more, and
else the latest of them is returned. A query that is not eligible runs its computation, returns the
outcome and does not touch the cache. Behind a computation that has failed, its failure is returned and
the cache is as the lookup has left it. -/
theorem computes_iff_no_success_lasts (valid : settings.validate = .ok ())
    (unbounded : settings.maxSize = none) (interval : Duration) (mono : Instant) (wrap : Error → ε)
    {earlier : List (Query ε)} {query : Query ε} (inSequence : InSequence (earlier ++ [query]))
    (ran : (history ((inProcess config).ask wrap) earlier).run (LocalCache.fresh settings interval mono) =
      (past, cache))
    {outcome : Outcome ε} {after : LocalCache}
    (asked : ((inProcess config).ask wrap query).run cache = (outcome, after)) :
    (config.admits query.request = true →
      (outcome.computed = true ↔ ∀ write ∈ successes config query.key past,
        write.lasts settings.ttlDuration query.asked.wall = false) ∧
      (outcome.computed = true → outcome.result = query.compute) ∧
      (outcome.computed = false → ∃ write,
        (lasting config settings.ttlDuration query.key past query.asked.wall).getLast? = some write ∧
          outcome.result = .ok write.response)) ∧
    (config.admits query.request = false → outcome = ⟨query.compute, true⟩ ∧ after = cache) ∧
    ∀ failure, query.compute = .error failure → outcome.computed = true →
      outcome.result = .error failure ∧
        after = (((inProcess config).getResponse query.asked query.request).run.run cache).2 := by
  obtain ⟨sooner, before⟩ := inSequence.of_append_singleton
  have remembers : Remembers config settings _ _ :=
    remembers_history valid unbounded interval mono wrap sooner
  have queries := map_fst_history ((inProcess config).ask wrap) earlier
    (LocalCache.fresh settings interval mono)
  rw [ran] at remembers queries
  rw [← queries] at before
  refine ⟨fun admitted => remembers.ask_of_admits wrap before admitted asked, ?_, ?_⟩
  · intro aside
    rw [run_ask_of_not_admits aside] at asked
    cases asked
    exact ⟨rfl, rfl⟩
  · intro failure given computed
    obtain ⟨left, returned⟩ := run_ask_of_error given asked
    exact ⟨returned computed, left⟩

end Runs

/-! ## Two queries under one key -/

/-- A query about a chat, at an instant, with a computation that gives a text at once. -/
def chatQuery (stream : Bool) (now : Instant) (text : String) : Query String where
  asked := ⟨now, 0⟩
  ended := ⟨now, 0⟩
  request := Request.chatRequest stream
  compute := .ok (.ofText text)

theorem key_chatQuery (stream : Bool) (now : Instant) (text : String) :
    (chatQuery stream now text).key = (Request.chatRequest false).fingerprint.hash := by
  have agree : (Request.chatRequest stream).Agree (Request.chatRequest false) :=
    ⟨rfl, rfl, rfl, rfl, rfl, rfl, rfl⟩
  exact congrArg (fun form => Sha256.hexDigest (Json.text form)) agree.canonicalForm_eq

/-- The cache behind an eligible chat in front of an empty one. -/
def behindChat (now : Instant) (text : String) : LocalCache :=
  ((LocalCache.fresh .default 4 0).get ⟨now, 0⟩ (chatQuery false now text).key).2.set ⟨now, 0⟩
    (chatQuery false now text).key (.ofText text) "small" (Response.ofText text).totalTokens

theorem nodup_behindChat (now : Instant) (text : String) :
    (behindChat now text).entries.keys.Nodup := by
  have looked : ((LocalCache.fresh .default 4 0).get ⟨now, 0⟩
      (chatQuery false now text).key).2.entries.keys.Nodup :=
    LocalCache.nodup_keys_get (LocalCache.nodup_keys_run .default 4 0 []) _ _
  exact LocalCache.nodup_keys_set looked _ _ _ _ _

theorem run_ask_chatQuery (now : Instant) (text : String) :
    ((inProcess .default).ask (fun _ => "cache") (chatQuery false now text)).run
        (LocalCache.fresh .default 4 0) = (⟨.ok (.ofText text), true⟩, behindChat now text) :=
  run_ask_of_unseen List.nodup_nil rfl rfl

/-- One nanosecond before the end of a lifetime, a second query is given what the first one computed; at
the end it computes again. -/
theorem computes_iff_no_success_lasts_chat :
    ∃ past cache, (history ((inProcess .default).ask fun _ => "cache") [chatQuery false 0 "first"]).run
        (LocalCache.fresh .default 4 0) = (past, cache) ∧
      (((inProcess .default).ask (fun _ => "cache") (chatQuery false 3599999999999 "second")).run
        cache).1 = ⟨.ok (.ofText "first"), false⟩ ∧
      (((inProcess .default).ask (fun _ => "cache") (chatQuery false 3600000000000 "second")).run
        cache).1 = ⟨.ok (.ofText "second"), true⟩ := by
  have ran : (history ((inProcess .default).ask fun _ => "cache") [chatQuery false 0 "first"]).run
      (LocalCache.fresh .default 4 0) =
      ([(chatQuery false 0 "first", ⟨.ok (.ofText "first"), true⟩)], behindChat 0 "first") := by
    rw [run_history_singleton, run_ask_chatQuery]
  have kept : ∀ now : Instant, successes .default (chatQuery false now "second").key
      [(chatQuery false 0 "first", ⟨.ok (.ofText "first"), true⟩)] =
        [⟨0, .ofText "first", "small", (Response.ofText "first").totalTokens⟩] := by
    intro now
    have sameKey : (chatQuery false 0 "first").key = (chatQuery false now "second").key := by
      rw [key_chatQuery, key_chatQuery]
    exact List.filterMap_cons_some (if_pos ⟨rfl, rfl, sameKey⟩)
  have lasts : Write.lasts ⟨0, .ofText "first", "small", (Response.ofText "first").totalTokens⟩
      Config.default.ttlDuration 3599999999999 = true :=
    Write.lasts_eq_true_iff.2 ⟨by decide, by decide⟩
  have ended : Write.lasts ⟨0, .ofText "first", "small", (Response.ofText "first").totalTokens⟩
      Config.default.ttlDuration 3600000000000 = false := by
    rw [← Bool.not_eq_true, Write.lasts_eq_true_iff, not_and]
    exact fun _ => by decide
  refine ⟨_, _, ran, ?_, ?_⟩
  · -- The success lasts, so the computation is not run.
    rcases asked : ((inProcess .default).ask (fun _ => "cache")
      (chatQuery false 3599999999999 "second")).run (behindChat 0 "first") with ⟨⟨result, computed⟩, after⟩
    obtain ⟨computes, -, remembered⟩ := (computes_iff_no_success_lasts rfl rfl 4 0 _
      (by decide) ran asked).1 rfl
    rw [kept, List.forall_mem_singleton] at computes
    cases computed with
    | true => cases lasts.symm.trans (computes.1 rfl)
    | false =>
      obtain ⟨write, latest, rfl⟩ := remembered rfl
      rw [lasting, kept, List.filter_cons_of_pos (by exact lasts)] at latest
      cases latest
      rfl
  · rcases asked : ((inProcess .default).ask (fun _ => "cache")
      (chatQuery false 3600000000000 "second")).run (behindChat 0 "first") with ⟨⟨result, computed⟩, after⟩
    obtain ⟨computes, given, -⟩ := (computes_iff_no_success_lasts rfl rfl 4 0 _
      (by decide) ran asked).1 rfl
    rw [kept, List.forall_mem_singleton] at computes
    obtain rfl := computes.2 ended
    obtain rfl := given rfl
    rfl

/-- A query runs its computation, although one under its key succeeded less than a lifetime ago. -/
def RunsAgain (config : Config) (first second : Query String) : Prop :=
  first.key = second.key ∧ InSequence [first, second] ∧
    config.admits second.request = true ∧
    second.asked.wall < first.ended.wall + config.ttlDuration ∧
    ∃ response cache outcome after, first.compute = .ok response ∧
      ((inProcess config).ask (fun _ => "cache") first).run (LocalCache.fresh config 4 0) =
        (⟨.ok response, true⟩, cache) ∧
      ((inProcess config).ask (fun _ => "cache") second).run cache = (outcome, after) ∧
      outcome.computed = true

/-- What was computed for a request that is not eligible is not remembered, although an eligible one has
its key; and nothing is remembered whose lifetime the clock cannot hold. -/
theorem runs_again_within_lifetime :
    Config.default.validate = .ok () ∧ Config.default.maxSize = none ∧
    RunsAgain .default (chatQuery true 0 "first") (chatQuery false 1000000000 "second") ∧
    RunsAgain .default (chatQuery false (Instant.clockEnd - 1) "first")
      (chatQuery false (Instant.clockEnd - 1) "second") := by
  refine ⟨rfl, rfl, ?_, ?_⟩
  · refine ⟨by rw [key_chatQuery, key_chatQuery], by decide, rfl, by decide, ?_⟩
    -- The stream has left the cache empty.
    exact ⟨_, _, _, _, rfl, run_ask_of_not_admits rfl _ _,
      run_ask_chatQuery 1000000000 "second", rfl⟩
  · refine ⟨by rw [key_chatQuery, key_chatQuery], by decide, rfl, by decide, ?_⟩
    -- What is written expires at once, so the second query sees nothing.
    have unseen : (behindChat (Instant.clockEnd - 1) "first").view (Instant.clockEnd - 1)
        (chatQuery false (Instant.clockEnd - 1) "second").key = none := by
      rw [key_chatQuery, ← key_chatQuery false (Instant.clockEnd - 1) "first", behindChat,
        LocalCache.view, LocalCache.find?_set_self]
      rfl
    exact ⟨_, _, _, _, rfl, run_ask_chatQuery _ "first",
      run_ask_of_unseen (nodup_behindChat _ _) rfl unseen, rfl⟩

end Manager

end CompletionCache
