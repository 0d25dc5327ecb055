import CompletionCache.Proofs.LocalCache.View
import CompletionCache.Proofs.Recency.Eviction
import Mathlib.Data.Set.Card

/-!
# What the cache in process reports

The statistics count the entries by a scan of the table, while a lookup may sweep first and then drops the
entry it finds expired. Both agree at every instant, whether or not a sweep is due: as many entries are
active as there are keys that a lookup would find (`ncard_readable`), and as many are there as the table
has keys. A report leaves the cache as it is, so what is returned behind it is what would have been
returned without it (`answers_cons_of_isReport`). Along every run all of this holds
(`reports_agree_with_lookups`).
-/

set_option autoImplicit false

namespace CompletionCache

/-! ## Tables -/

namespace Recency

variable {α : Type} {table : Recency α}

/-- The keys under which something is found are those of the table. -/
theorem setOf_find?_isSome (table : Recency α) :
    {key | (table.find? key).isSome = true} = (table.keys.toFinset : Set String) := by
  ext key
  rw [Set.mem_ofPred_eq, find?_isSome_iff, List.coe_toFinset, Set.mem_ofPred_eq]

theorem ncard_find?_isSome (nodup : table.keys.Nodup) :
    {key | (table.find? key).isSome = true}.ncard = table.size := by
  rw [setOf_find?_isSome, Set.ncard_coe_finset, List.toFinset_card_of_nodup nodup, length_keys]

theorem size_retain (table : Recency α) (keep : α → Bool) :
    (table.retain keep).size = table.countWhere keep :=
  List.countP_eq_length_filter.symm

end Recency

/-! ## Reports -/

/-- Whether an operation is a report on the cache. -/
def Operation.isReport : Operation → Bool
  | stats => true
  | health => true
  | get _ => false
  | set _ _ _ _ => false
  | delete _ => false
  | clear => false

/-- What is returned along a run. -/
def Backend.answers {σ : Type} (backend : Backend σ) (state : σ) : List Event → List (Result Answer)
  | [] => []
  | event :: events =>
    backend.answer state event :: backend.answers (backend.step state event) events

namespace LocalCache

variable (cache : LocalCache)

theorem step_of_isReport {event : Event} (report : event.operation.isReport = true) :
    backend.step cache event = cache := by
  obtain ⟨clocks, operation⟩ := event
  cases operation with
  | stats => rfl
  | health => rfl
  | get key => cases report
  | set key response model tokens => cases report
  | delete key => cases report
  | clear => cases report

/-- What is returned behind a report is what would have been returned without it. -/
theorem answers_cons_of_isReport {event : Event} (report : event.operation.isReport = true)
    (later : List Event) :
    backend.answers cache (event :: later) =
      backend.answer cache event :: backend.answers cache later := by
  rw [Backend.answers, step_of_isReport cache report]

/-! ## Keys that can be read -/

/-- The keys under which there is an entry, expired or not. -/
def resident : Set String := {key | (cache.entries.find? key).isSome = true}

/-- The keys under which a lookup would find an entry. -/
def readable (clocks : Clocks) : Set String := {key | (cache.get clocks key).1.isSome = true}

variable {cache}

/-- A lookup finds what is left of the table without its expired entries. -/
theorem readable_eq (nodup : cache.entries.keys.Nodup) (clocks : Clocks) :
    cache.readable clocks = {key | ((cache.entries.retain fun entry =>
      !entry.isExpiredAt clocks.wall).find? key).isSome = true} := by
  ext key
  rw [readable, Set.mem_ofPred_eq, Set.mem_ofPred_eq, get_fst nodup, view, Recency.find?_retain nodup]

theorem finite_resident (cache : LocalCache) : cache.resident.Finite := by
  rw [resident, Recency.setOf_find?_isSome]
  exact Finset.finite_toSet _

theorem finite_readable (nodup : cache.entries.keys.Nodup) (clocks : Clocks) :
    (cache.readable clocks).Finite := by
  rw [readable_eq nodup, Recency.setOf_find?_isSome]
  exact Finset.finite_toSet _

/-- As many entries have not expired as there are keys that a lookup would find. -/
theorem ncard_readable (nodup : cache.entries.keys.Nodup) (clocks : Clocks) :
    (cache.readable clocks).ncard =
      cache.entries.countWhere fun entry => !entry.isExpiredAt clocks.wall := by
  rw [readable_eq nodup, Recency.ncard_find?_isSome (Recency.nodup_keys_retain nodup _),
    Recency.size_retain]

/-! ## Agreement -/

/-- What the statistics and the health report of a cache say at an instant is what can be read there, and
neither changes anything that is returned later. -/
structure ReportsAgree (cache : LocalCache) (clocks : Clocks) (stats : Stats) (report : HealthReport) :
    Prop where
  statsReturned : ∀ later, backend.answers cache (⟨clocks, .stats⟩ :: later) =
    .ok (.stats stats) :: backend.answers cache later
  healthReturned : ∀ later, backend.answers cache (⟨clocks, .health⟩ :: later) =
    .ok (.health report) :: backend.answers cache later
  /-- Whatever the monotonic clock shows, and so whether or not a sweep is due. -/
  active : ∀ mono, (cache.readable ⟨clocks.wall, mono⟩).Finite ∧
    stats.activeEntries = some (cache.readable ⟨clocks.wall, mono⟩).ncard ∧
    (cache.readable ⟨clocks.wall, mono⟩).ncard ≤ stats.totalEntries
  total : cache.resident.Finite ∧ stats.totalEntries = cache.resident.ncard
  entries : report.entries = some stats.totalEntries
  healthy : report.healthy = true

theorem reportsAgree (nodup : cache.entries.keys.Nodup) (clocks : Clocks) :
    ReportsAgree cache clocks (cache.stats clocks.wall) cache.health where
  statsReturned := answers_cons_of_isReport cache rfl
  healthReturned := answers_cons_of_isReport cache rfl
  active mono := by
    have count := ncard_readable nodup ⟨clocks.wall, mono⟩
    refine ⟨finite_readable nodup _, congrArg some count.symm, ?_⟩
    rw [count]
    exact List.countP_le_length
  total := ⟨finite_resident cache, (Recency.ncard_find?_isSome nodup).symm⟩
  entries := rfl
  healthy := rfl

/-- Along every run from a new cache, the statistics tell at every instant how many keys a lookup would
find, whether or not a sweep is due, and how many keys there are; the health report tells the latter as
well. Neither changes what is returned later. -/
theorem reports_agree_with_lookups (config : Config) (interval : Duration) (mono : Instant)
    (events : List Event) (clocks : Clocks) :
    ∃ stats report,
      ReportsAgree (backend.run (fresh config interval mono) events) clocks stats report :=
  ⟨_, _, reportsAgree (nodup_keys_run config interval mono events) clocks⟩

/-- A lifetime of a second, two writes two seconds apart, and no sweep between them. -/
example :
    let cache := backend.run
      (fresh { Config.default with ttl := 1 } (Duration.ofSeconds 60) 0)
      [⟨⟨0, 0⟩, .set "stale" (.ofText "1") "m" 0⟩,
        ⟨⟨2000000000, 2000000000⟩, .set "fresh" (.ofText "2") "m" 0⟩]
    (cache.stats 2000000000).totalEntries = 2 ∧
      (cache.stats 2000000000).activeEntries = some 1 := by
  decide

end LocalCache

end CompletionCache
