import CompletionCache.Proofs.SharedCache.Contract

/-!
# What deletions report

The cache in process drops expired entries only when it comes across them. Until then an entry that no
reader sees any more is still held (`LocalCache.Lapsed`), and to delete it reports a removal: a deletion
tells what is held, not what readers see (`LocalCache.delete_reports_what_is_held`). A store drops
expired documents by itself, so behind the same operations the deletion of a shared cache tells what
readers of the cache in process see (`SharedCache.answer_delete_run`).
-/

set_option autoImplicit false

namespace CompletionCache

namespace LocalCache

/-- An entry that has expired is still held under a key. -/
def Lapsed (cache : LocalCache) (now : Instant) (key : String) : Prop :=
  ∃ entry, cache.entries.find? key = some entry ∧ entry.isExpiredAt now = true

section Lapsed

variable {cache : LocalCache} (nodup : cache.entries.keys.Nodup) (clocks : Clocks) (key : String)

include nodup

/-- What is held under a key is seen, or it has lapsed. -/
theorem delete_fst_eq_true_iff :
    (cache.delete key).1 = true ↔
      (cache.get clocks key).1.isSome = true ∨ cache.Lapsed clocks.wall key := by
  rw [get_fst nodup, view, delete, Lapsed]
  cases cache.entries.find? key with
  | none => simp
  | some entry => cases expired : entry.isExpiredAt clocks.wall <;> simp [Option.filter, expired]

theorem not_lapsed_of_isSome_get (seen : (cache.get clocks key).1.isSome = true) :
    ¬cache.Lapsed clocks.wall key := by
  rintro ⟨entry, held, expired⟩
  rw [get_fst nodup, view, held] at seen
  simp [Option.filter, expired] at seen

/-- Behind a sweep nothing that is held has lapsed. -/
theorem not_lapsed_sweep (due : cache.sweepDue clocks = true) :
    ¬(cache.sweep clocks).Lapsed clocks.wall key := by
  rintro ⟨entry, held, expired⟩
  rw [sweep, if_pos due, Recency.find?_retain nodup, Option.filter_eq_some_iff] at held
  simp [expired] at held

/-- A lookup leaves a lapsed entry only under another key, and only if no sweep is due. -/
theorem lapsed_of_lapsed_get {other : String}
    (lapsed : (cache.get clocks other).2.Lapsed clocks.wall key) :
    other ≠ key ∧ cache.sweepDue clocks = false := by
  have swept : (cache.sweep clocks).Lapsed clocks.wall key ∧ other ≠ key := by
    obtain ⟨entry, held, expired⟩ := lapsed
    rcases cache.get_cases clocks other with
      ⟨absent, result⟩ | ⟨dropped, -, -, result⟩ | ⟨found, there, alive, result⟩
    · rw [result] at held
      refine ⟨⟨entry, held, expired⟩, ?_⟩
      rintro rfl
      rw [absent] at held
      cases held
    · rw [result, Recency.find?_erase] at held
      split at held
      · cases held
      · next differs => exact ⟨⟨entry, held, expired⟩, Ne.symm differs⟩
    · rw [result, Recency.find?_touch] at held
      refine ⟨⟨entry, held, expired⟩, ?_⟩
      rintro rfl
      rw [there] at held
      cases held
      rw [alive] at expired
      cases expired
  refine ⟨swept.2, ?_⟩
  rw [← Bool.not_eq_true]
  exact fun due => not_lapsed_sweep nodup clocks key due swept.1

end Lapsed

/-- In every state that a run reaches, a deletion reports whether anything is held under the key: what a
reader would see, or else an entry that has lapsed. Only the latter sets it apart from a lookup at the
same instant; it is gone behind a lookup of the key and behind any lookup that sweeps. Behind the deletion
nothing is found. -/
theorem delete_reports_what_is_held (config : Config) (interval : Duration) (mono : Instant)
    (events : List Event) (clocks : Clocks) (key : String) :
    (((backend.run (fresh config interval mono) events).delete key).1 = true ↔
      ((backend.run (fresh config interval mono) events).get clocks key).1.isSome = true ∨
        (backend.run (fresh config interval mono) events).Lapsed clocks.wall key) ∧
    (((backend.run (fresh config interval mono) events).delete key).1 =
        ((backend.run (fresh config interval mono) events).get clocks key).1.isSome ↔
      ¬(backend.run (fresh config interval mono) events).Lapsed clocks.wall key) ∧
    (∀ other, ((backend.run (fresh config interval mono) events).get clocks other).2.Lapsed
        clocks.wall key →
      other ≠ key ∧ (backend.run (fresh config interval mono) events).sweepDue clocks = false) ∧
    ∀ later, (((backend.run (fresh config interval mono) events).delete key).2.get later key).1 =
      none := by
  have nodup := nodup_keys_run config interval mono events
  generalize backend.run (fresh config interval mono) events = cache at nodup
  have held := delete_fst_eq_true_iff nodup clocks key
  refine ⟨held, ⟨?_, ?_⟩, fun other => lapsed_of_lapsed_get nodup clocks key, ?_⟩
  · intro same lapsed
    have seen := held.2 (.inr lapsed)
    rw [same] at seen
    exact not_lapsed_of_isSome_get nodup clocks key seen lapsed
  · intro present
    rw [or_iff_left present] at held
    exact Bool.eq_iff_iff.2 held
  · intro later
    have erased : (cache.delete key).2.entries.keys.Nodup := Recency.nodup_keys_erase nodup key
    rw [get_fst erased, view, delete, Recency.find?_erase, if_pos rfl]
    rfl

/-- The settings under which keys live for a second. -/
def secondConfig : Config := { Config.default with ttl := 1 }

/-- A key is written, and then nothing happens for two seconds. -/
def leftAlone : List Event := [⟨⟨0, 0⟩, .set "k" (.ofText "first") "m" 3⟩]

/-- The clocks two seconds after a key was written. -/
def twoSecondsOn : Clocks := ⟨2000000000, 2000000000⟩

/-- When the lookup of another key has swept, a deletion reports what readers see. -/
theorem delete_reports_what_is_held_swept :
    (backend.run (fresh secondConfig 1000000000 0) leftAlone).sweepDue twoSecondsOn = true ∧
    ¬((backend.run (fresh secondConfig 1000000000 0) leftAlone).get twoSecondsOn "other").2.Lapsed
      twoSecondsOn.wall "k" := by
  have due : (backend.run (fresh secondConfig 1000000000 0) leftAlone).sweepDue twoSecondsOn = true :=
    by decide
  refine ⟨due, fun lapsed => ?_⟩
  obtain ⟨-, -, left, -⟩ :=
    delete_reports_what_is_held secondConfig 1000000000 0 leftAlone twoSecondsOn "k"
  rw [(left "other" lapsed).2] at due
  cases due

/-- A second behind its end, and before any sweep, the deletion of an entry reports a removal although a
lookup would not have found it. -/
theorem delete_reports_lapsed :
    ((backend.run (fresh secondConfig 60000000000 0) leftAlone).delete "k").1 = true ∧
    ((backend.run (fresh secondConfig 60000000000 0) leftAlone).get twoSecondsOn "k").1 = none := by
  decide

end LocalCache

namespace SharedCache

variable {config : Config} {address : StoreConfig} {paging : Keyspace.Paging} {events : List Event}
  {cache : SharedCache} {space : Keyspace}

/-- The deletion of a shared cache tells whether the write that stands is still seen. -/
theorem Tracks.answer_delete (tracks : Tracks config address events (cache, space)) {clocks : Clocks}
    (past : ∀ event ∈ events, event.clocks.wall ≤ clocks.wall) (key : String) :
    (inTime paging).answer (cache, space) ⟨clocks, .delete key⟩ =
      .ok (.removed
        (Write.seen (standing? key events) key config.ttlDuration clocks.wall).isSome) := by
  have found := tracks.holds clocks.wall past key
  have answered : (inTime paging).answer (cache, space) ⟨clocks, .delete key⟩ =
      .ok (.removed ((SharedCache.delete (Keyspace.store paging) clocks key).run
        (cache, space.showing clocks.wall)).1) := rfl
  rw [answered, run_delete, run_tryDelete tracks.ready, Keyspace.contains, storeKey, tracks.place,
    found, Option.isSome_map]
  cases (Write.seen (standing? key events) key config.ttlDuration clocks.wall).isSome <;> rfl

/-- Behind the same run without a capacity, the deletion of a shared cache tells what a reader of the
cache in process sees, whether an entry has lapsed in there or not. -/
theorem answer_delete_run (unbounded : config.maxSize = none) (fair : paging.Fair)
    (created : SharedCache.create config address = .ok cache)
    (vacant : ∀ key stored, (address.keyPrefix ++ key, stored) ∉ space.items)
    (fits : HoldsLifetimes config events) (interval : Duration) (mono : Instant) {clocks : Clocks}
    (past : ∀ event ∈ events, event.clocks.wall ≤ clocks.wall) (key : String) :
    (inTime paging).answer ((inTime paging).run (cache, space) events) ⟨clocks, .delete key⟩ =
      .ok (.removed ((LocalCache.backend.run (LocalCache.fresh config interval mono) events).get
        clocks key).1.isSome) := by
  have tracks := tracks_run unbounded fair created vacant fits
  have nodup := LocalCache.nodup_keys_run config interval mono events
  rw [LocalCache.get_fst nodup, LocalCache.view_run unbounded interval mono fits past]
  exact tracks.answer_delete past key

end SharedCache

end CompletionCache
