import CompletionCache.Proofs.LocalCache.View

/-!
# Faithful backends

A backend is faithful to a relation between keys and responses when it never fails and finds under a
key only responses that may be written there, as long as nothing else is written
(`Backend.Faithful`). What it forgets, and when, is left to it. The cache in process is faithful to
every relation: its table holds no entry that was not written (`LocalCache.faithful_backend`).
-/

set_option autoImplicit false

namespace CompletionCache

/-- Operations never fail, they keep an invariant when only what may be written is, and a lookup
finds nothing but that. -/
structure Backend.Faithful {σ : Type} (backend : Backend σ)
    (MayWrite : String → Response → Prop) (Inv : σ → Prop) : Prop where
  get : ∀ (clocks : Clocks) (key : String) {state : σ}, Inv state →
    ∃ found after, (backend.get clocks key).run.run state = (.ok found, after) ∧ Inv after ∧
      ∀ entry, found = some entry → MayWrite key entry.response
  set : ∀ (clocks : Clocks) {key : String} {response : Response} (model : String)
    (tokens : UInt64) {state : σ}, MayWrite key response → Inv state →
    ∃ after, (backend.set clocks key response model tokens).run.run state = (.ok (), after) ∧
      Inv after
  delete : ∀ (clocks : Clocks) (key : String) {state : σ}, Inv state →
    ∃ existed after, (backend.delete clocks key).run.run state = (.ok existed, after) ∧ Inv after
  clear : ∀ (clocks : Clocks) {state : σ}, Inv state →
    ∃ after, (backend.clear clocks).run.run state = (.ok (), after) ∧ Inv after

namespace LocalCache

/-- A table whose keys stand once and whose entries may all be written. -/
structure Filled (MayWrite : String → Response → Prop) (cache : LocalCache) : Prop where
  nodup : cache.entries.keys.Nodup
  mayWrite : ∀ key entry, cache.entries.find? key = some entry → MayWrite key entry.response

variable {MayWrite : String → Response → Prop} {cache : LocalCache}

theorem filled_fresh (config : Config) (interval : Duration) (mono : Instant) :
    (fresh config interval mono).Filled MayWrite := by
  refine ⟨List.nodup_nil, ?_⟩
  intro key entry found
  cases found

theorem Filled.get (filled : cache.Filled MayWrite) (clocks : Clocks) (key : String) :
    (cache.get clocks key).2.Filled MayWrite := by
  refine ⟨nodup_keys_get filled.nodup clocks key, ?_⟩
  intro other entry found
  exact filled.mayWrite other entry (find?_of_find?_get filled.nodup found)

theorem Filled.mayWrite_of_get (filled : cache.Filled MayWrite) {clocks : Clocks} {key : String}
    {entry : Entry} (found : (cache.get clocks key).1 = some entry) :
    MayWrite key entry.response := by
  rw [get_fst filled.nodup] at found
  obtain ⟨held, -⟩ := (view_eq_some_iff cache clocks.wall key entry).1 found
  exact filled.mayWrite key entry held

theorem Filled.set (filled : cache.Filled MayWrite) (clocks : Clocks) {key : String}
    {response : Response} (written : MayWrite key response) (model : String) (tokens : UInt64) :
    (cache.set clocks key response model tokens).Filled MayWrite := by
  refine ⟨nodup_keys_set filled.nodup clocks key response model tokens, ?_⟩
  -- Under its own key the new entry is found, and elsewhere what was there before.
  intro other entry found
  by_cases same : other = key
  · subst same
    rw [find?_set_self] at found
    cases found
    exact written
  · exact filled.mayWrite other entry (find?_of_find?_set filled.nodup same found)

theorem Filled.delete (filled : cache.Filled MayWrite) (key : String) :
    (cache.delete key).2.Filled MayWrite := by
  refine ⟨Recency.nodup_keys_erase filled.nodup key, ?_⟩
  intro other entry found
  rw [LocalCache.delete, Recency.find?_erase] at found
  split at found
  · cases found
  · exact filled.mayWrite other entry found

theorem filled_clear (cache : LocalCache) : cache.clear.Filled MayWrite := by
  refine ⟨List.nodup_nil, ?_⟩
  intro key entry found
  cases found

/-- The cache in process is faithful, whatever is evicted or swept away. -/
theorem faithful_backend (MayWrite : String → Response → Prop) :
    backend.Faithful MayWrite (Filled MayWrite) where
  get clocks key _ filled :=
    ⟨_, _, rfl, filled.get clocks key, fun _ found => filled.mayWrite_of_get found⟩
  set clocks _ _ model tokens _ written filled :=
    ⟨_, rfl, filled.set clocks written model tokens⟩
  delete _ key _ filled := ⟨_, _, rfl, filled.delete key⟩
  clear _ cache _ := ⟨_, rfl, filled_clear cache⟩

end LocalCache

end CompletionCache
