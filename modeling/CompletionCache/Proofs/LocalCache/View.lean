import CompletionCache.LocalCache
import CompletionCache.Proofs.Backend.Run
import CompletionCache.Proofs.Recency.Keys

/-!
# What readers of the cache in process see

`LocalCache.view` is the entry under a key that has not expired. A lookup returns it (`get_fst`).
What an operation removes from the table behind the back of its caller has expired, so at that
instant and at every later one a lookup and a sweep change the view of no key (`view_sweep`,
`view_get`), and without a capacity a write changes the view of its own key alone (`view_set`).
The keys of the table are pairwise distinct along every run (`nodup_keys_run`).
-/

set_option autoImplicit false

namespace CompletionCache

/-- An entry that has expired stays so. -/
theorem Entry.isExpiredAt_mono {entry : Entry} {earlier later : Instant}
    (order : earlier ≤ later) (expired : entry.isExpiredAt earlier = true) :
    entry.isExpiredAt later = true := by
  rw [isExpiredAt, decide_eq_true_eq] at expired ⊢
  exact Int.le_trans expired order

namespace LocalCache

/-- A cache that has just been made, with a cleanup interval. -/
def fresh (config : Config) (interval : Duration) (mono : Instant) : LocalCache :=
  (create config mono).withCleanupInterval interval

/-- The entry under a key, if it has not expired. -/
def view (cache : LocalCache) (now : Instant) (key : String) : Option Entry :=
  (cache.entries.find? key).filter fun entry => !entry.isExpiredAt now

theorem view_eq_some_iff (cache : LocalCache) (now : Instant) (key : String) (entry : Entry) :
    cache.view now key = some entry ↔
      cache.entries.find? key = some entry ∧ entry.isExpiredAt now = false := by
  simp [view, Option.filter_eq_some_iff]

/-! ## Events -/

section Events

variable (cache : LocalCache) (clocks : Clocks)

@[simp]
theorem step_get (key : String) :
    backend.step cache ⟨clocks, .get key⟩ = (cache.get clocks key).2 := rfl

@[simp]
theorem step_set (key : String) (response : Response) (model : String) (tokens : UInt64) :
    backend.step cache ⟨clocks, .set key response model tokens⟩ =
      cache.set clocks key response model tokens := rfl

@[simp]
theorem step_delete (key : String) :
    backend.step cache ⟨clocks, .delete key⟩ = (cache.delete key).2 := rfl

@[simp]
theorem step_clear : backend.step cache ⟨clocks, .clear⟩ = cache.clear := rfl

@[simp]
theorem step_stats : backend.step cache ⟨clocks, .stats⟩ = cache := rfl

@[simp]
theorem step_health : backend.step cache ⟨clocks, .health⟩ = cache := rfl

end Events

/-- What a lookup can do, behind a sweep: it misses, it drops an expired entry and misses, or it
finds an entry that lives and counts it as used. -/
theorem get_cases (cache : LocalCache) (clocks : Clocks) (key : String) :
    ((cache.sweep clocks).entries.find? key = none ∧
      cache.get clocks key =
        (none, { cache.sweep clocks with misses := (cache.sweep clocks).misses + 1 })) ∨
    (∃ entry, (cache.sweep clocks).entries.find? key = some entry ∧
      entry.isExpiredAt clocks.wall = true ∧
      cache.get clocks key =
        (none, { cache.sweep clocks with
          entries := (cache.sweep clocks).entries.erase key
          misses := (cache.sweep clocks).misses + 1 })) ∨
    (∃ entry, (cache.sweep clocks).entries.find? key = some entry ∧
      entry.isExpiredAt clocks.wall = false ∧
      cache.get clocks key =
        (some entry, { cache.sweep clocks with
          entries := (cache.sweep clocks).entries.touch key
          hits := (cache.sweep clocks).hits + 1 })) := by
  cases found : (cache.sweep clocks).entries.find? key with
  | none => exact Or.inl ⟨rfl, by simp [get, found]⟩
  | some entry =>
    cases expired : entry.isExpiredAt clocks.wall with
    | true => exact Or.inr (Or.inl ⟨entry, rfl, expired, by simp [get, found, expired]⟩)
    | false => exact Or.inr (Or.inr ⟨entry, rfl, expired, by simp [get, found, expired]⟩)

/-! ## The config stays -/

@[simp]
theorem config_sweep (cache : LocalCache) (clocks : Clocks) :
    (cache.sweep clocks).config = cache.config := by
  unfold sweep
  split <;> rfl

@[simp]
theorem config_get (cache : LocalCache) (clocks : Clocks) (key : String) :
    (cache.get clocks key).2.config = cache.config := by
  rcases cache.get_cases clocks key with
    ⟨-, result⟩ | ⟨entry, -, -, result⟩ | ⟨entry, -, -, result⟩ <;>
  · rw [result]
    exact config_sweep cache clocks

@[simp]
theorem config_set (cache : LocalCache) (clocks : Clocks) (key : String) (response : Response)
    (model : String) (tokens : UInt64) :
    (cache.set clocks key response model tokens).config = cache.config :=
  config_sweep cache clocks

@[simp]
theorem config_step (cache : LocalCache) (event : Event) :
    (backend.step cache event).config = cache.config := by
  obtain ⟨clocks, operation⟩ := event
  cases operation with
  | get key => exact config_get cache clocks key
  | set key response model tokens => exact config_set cache clocks key response model tokens
  | delete key => rfl
  | clear => rfl
  | stats => rfl
  | health => rfl

@[simp]
theorem config_run (cache : LocalCache) (events : List Event) :
    (backend.run cache events).config = cache.config := by
  induction events using List.reverseRecOn with
  | nil => rfl
  | append_singleton events event ih => rw [Backend.run_append_singleton, config_step, ih]

/-! ## Keys stand once -/

theorem nodup_keys_sweep {cache : LocalCache} (nodup : cache.entries.keys.Nodup)
    (clocks : Clocks) : (cache.sweep clocks).entries.keys.Nodup := by
  unfold sweep
  split
  · exact Recency.nodup_keys_retain nodup _
  · exact nodup

theorem nodup_keys_get {cache : LocalCache} (nodup : cache.entries.keys.Nodup) (clocks : Clocks)
    (key : String) : (cache.get clocks key).2.entries.keys.Nodup := by
  have swept := nodup_keys_sweep nodup clocks
  rcases cache.get_cases clocks key with
    ⟨-, result⟩ | ⟨entry, -, -, result⟩ | ⟨entry, -, -, result⟩
  · rw [result]
    exact swept
  · rw [result]
    exact Recency.nodup_keys_erase swept key
  · rw [result]
    exact Recency.nodup_keys_touch swept key

theorem nodup_keys_makeRoom {entries : Recency Entry} (nodup : entries.keys.Nodup)
    (capacity : Option Nat) : (makeRoom capacity entries).keys.Nodup := by
  cases capacity with
  | none => exact nodup
  | some capacity => exact Recency.nodup_keys_keepLatest nodup _

theorem nodup_keys_set {cache : LocalCache} (nodup : cache.entries.keys.Nodup) (clocks : Clocks)
    (key : String) (response : Response) (model : String) (tokens : UInt64) :
    (cache.set clocks key response model tokens).entries.keys.Nodup :=
  Recency.nodup_keys_push
    (nodup_keys_makeRoom (Recency.nodup_keys_erase (nodup_keys_sweep nodup clocks) key) _) key _

theorem nodup_keys_step {cache : LocalCache} (nodup : cache.entries.keys.Nodup) (event : Event) :
    (backend.step cache event).entries.keys.Nodup := by
  obtain ⟨clocks, operation⟩ := event
  cases operation with
  | get key => exact nodup_keys_get nodup clocks key
  | set key response model tokens => exact nodup_keys_set nodup clocks key response model tokens
  | delete key => exact Recency.nodup_keys_erase nodup key
  | clear => exact List.nodup_nil
  | stats => exact nodup
  | health => exact nodup

/-- Along every run from a new cache the keys of the table are pairwise distinct. -/
theorem nodup_keys_run (config : Config) (interval : Duration) (mono : Instant)
    (events : List Event) :
    (backend.run (fresh config interval mono) events).entries.keys.Nodup := by
  induction events using List.reverseRecOn with
  | nil => exact List.nodup_nil
  | append_singleton events event ih =>
    rw [Backend.run_append_singleton]
    exact nodup_keys_step ih event

/-! ## Sweeps -/

/-- What is found behind a sweep was there before it. -/
theorem find?_of_find?_sweep {cache : LocalCache} (nodup : cache.entries.keys.Nodup)
    {clocks : Clocks} {key : String} {entry : Entry}
    (found : (cache.sweep clocks).entries.find? key = some entry) :
    cache.entries.find? key = some entry := by
  unfold sweep at found
  split at found
  · rw [Recency.find?_retain nodup, Option.filter_eq_some_iff] at found
    exact found.1
  · exact found

/-- A sweep takes away only what no reader sees any more. -/
theorem view_sweep {cache : LocalCache} (nodup : cache.entries.keys.Nodup) {clocks : Clocks}
    {now : Instant} (order : clocks.wall ≤ now) (key : String) :
    (cache.sweep clocks).view now key = cache.view now key := by
  unfold sweep
  split
  · simp only [view]
    rw [Recency.find?_retain nodup, Option.filter_filter]
    -- What is swept away has expired by then, so the reader passes over it before and behind.
    congr 1
    funext entry
    cases expired : entry.isExpiredAt clocks.wall with
    | false => simp
    | true => simp [Entry.isExpiredAt_mono order expired]
  · rfl

/-! ## Lookups -/

/-- A lookup returns what a reader sees. -/
theorem get_fst {cache : LocalCache} (nodup : cache.entries.keys.Nodup) (clocks : Clocks)
    (key : String) : (cache.get clocks key).1 = cache.view clocks.wall key := by
  rw [← view_sweep nodup (Int.le_refl clocks.wall), view]
  rcases cache.get_cases clocks key with
    ⟨absent, result⟩ | ⟨entry, found, expired, result⟩ | ⟨entry, found, alive, result⟩
  · rw [result, absent]
    rfl
  · rw [result, found]
    simp [Option.filter, expired]
  · rw [result, found]
    simp [Option.filter, alive]

/-- What is found behind a lookup was there before it. -/
theorem find?_of_find?_get {cache : LocalCache} (nodup : cache.entries.keys.Nodup)
    {clocks : Clocks} {key other : String} {entry : Entry}
    (found : (cache.get clocks key).2.entries.find? other = some entry) :
    cache.entries.find? other = some entry := by
  have kept : (cache.sweep clocks).entries.find? other = some entry := by
    rcases cache.get_cases clocks key with
      ⟨-, result⟩ | ⟨expired, -, -, result⟩ | ⟨live, -, -, result⟩
    · rw [result] at found
      exact found
    · rw [result, Recency.find?_erase] at found
      split at found
      · simp at found
      · exact found
    · rw [result, Recency.find?_touch] at found
      exact found
  exact find?_of_find?_sweep nodup kept

/-- A lookup changes nothing that a reader sees. -/
theorem view_get {cache : LocalCache} (nodup : cache.entries.keys.Nodup) {clocks : Clocks}
    {now : Instant} (order : clocks.wall ≤ now) (key other : String) :
    (cache.get clocks key).2.view now other = cache.view now other := by
  rw [← view_sweep nodup order other]
  rcases cache.get_cases clocks key with
    ⟨-, result⟩ | ⟨entry, found, expired, result⟩ | ⟨entry, -, -, result⟩
  · rw [result]
    rfl
  · rw [result, view, Recency.find?_erase]
    split
    · next same =>
      -- The entry that is removed has expired, so no reader would have seen it from now on.
      rw [same, view, found]
      simp [Option.filter, Entry.isExpiredAt_mono order expired]
    · rfl
  · rw [result, view, Recency.find?_touch]
    rfl

/-! ## Writes -/

/-- What is found in a table with room was there before. -/
theorem find?_of_find?_makeRoom {capacity : Option Nat} {entries : Recency Entry} {key : String}
    {entry : Entry} (found : (makeRoom capacity entries).find? key = some entry) :
    entries.find? key = some entry := by
  cases capacity with
  | none => exact found
  | some capacity => exact Recency.find?_of_find?_keepLatest found

/-- Behind a write the key finds the new entry. -/
theorem find?_set_self (cache : LocalCache) (clocks : Clocks) (key : String) (response : Response)
    (model : String) (tokens : UInt64) :
    (cache.set clocks key response model tokens).entries.find? key =
      some (Entry.create clocks.wall key response model tokens cache.config.ttlDuration) := by
  simp [set, Recency.find?_push]

/-- What another key finds behind a write was there before it. -/
theorem find?_of_find?_set {cache : LocalCache} (nodup : cache.entries.keys.Nodup)
    {clocks : Clocks} {key other : String} {response : Response} {model : String}
    {tokens : UInt64} {entry : Entry} (differs : other ≠ key)
    (found : (cache.set clocks key response model tokens).entries.find? other = some entry) :
    cache.entries.find? other = some entry := by
  rw [set, Recency.find?_push, if_neg differs] at found
  have kept := find?_of_find?_makeRoom found
  rw [Recency.find?_erase, if_neg differs] at kept
  exact find?_of_find?_sweep nodup kept

/-- Without a capacity, a write changes what a reader sees under its key and nothing else. -/
theorem view_set {cache : LocalCache} (nodup : cache.entries.keys.Nodup)
    (unbounded : cache.config.maxSize = none) {clocks : Clocks} {now : Instant}
    (order : clocks.wall ≤ now) {key other : String} (response : Response) (model : String)
    (tokens : UInt64) (differs : other ≠ key) :
    (cache.set clocks key response model tokens).view now other = cache.view now other := by
  -- Nothing is pushed out, so only the sweep and the key itself are left to look at.
  have roomy : (cache.sweep clocks).config.capacity? = none := by
    rw [config_sweep, Config.capacity?, unbounded]
    rfl
  rw [← view_sweep nodup order other, set, view, Recency.find?_push, if_neg differs, roomy,
    makeRoom, Recency.find?_erase, if_neg differs]
  rfl

end LocalCache

end CompletionCache
