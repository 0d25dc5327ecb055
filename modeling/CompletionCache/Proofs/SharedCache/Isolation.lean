import CompletionCache.Proofs.SharedCache.InTime
import CompletionCache.Proofs.SharedCache.Outcome

/-!
# Caches that share a store

A cache touches no key that does not begin with its prefix (`agreeOn_effect`), and of the store it sees
nothing but the keys that do (`effect_congr`). So what a run leaves under other prefixes is what was there
before it, and a cache does not notice others whose prefixes do not begin with its own or it with theirs
(`namespaces_isolated`).
-/

set_option autoImplicit false

namespace CompletionCache.SharedCache

open Keyspace (AgreeOn)

/-! ## Steps -/

section Effects

variable (cache : SharedCache) (space : Keyspace) (clocks : Clocks) (operation : Operation)

theorem store_outcome : (cache.outcome space clocks operation).2.1.store = cache.store := by
  cases operation with
  | get key => exact store_counted _ _
  | set key response model tokens => rfl
  | delete key => rfl
  | clear => rfl
  | stats => rfl
  | health => rfl

theorem store_missedOutcome (fault : StoreFault) :
    (cache.missedOutcome fault operation).2.store = cache.store := by
  cases operation with
  | get key => exact store_counted _ _
  | set key response model tokens => rfl
  | delete key => rfl
  | clear => rfl
  | stats => rfl
  | health => rfl

/-- No operation changes the settings of the store. -/
theorem store_effect : (cache.effect space clocks operation).2.1.store = cache.store := by
  rw [effect]
  cases cache.pause? clocks.mono with
  | none => exact (store_outcome _ _ _ _).trans cache.store_connected
  | some since => exact store_missedOutcome _ _ _

theorem agreeOn_withinCapacity :
    AgreeOn (fun key => ¬ BeginsWith cache.store.keyPrefix key) (cache.withinCapacity space) space := by
  rw [withinCapacity]
  cases cache.config.capacity? with
  | none => exact AgreeOn.refl _ _
  | some maxSize => exact Keyspace.agreeOn_deleteAll_selected _ _ _

theorem agreeOn_outcome :
    AgreeOn (fun key => ¬ BeginsWith cache.store.keyPrefix key)
      (cache.outcome space clocks operation).2.2 space := by
  have own (key : String) : ¬ ¬ BeginsWith cache.store.keyPrefix (cache.storeKey key) :=
    not_not.2 (beginsWith_append _ _)
  cases operation with
  | get key => exact AgreeOn.refl _ _
  | set key response model tokens =>
    exact (cache.agreeOn_withinCapacity _).trans (Keyspace.agreeOn_put (own key) _)
  | delete key => exact Keyspace.agreeOn_erase (own key)
  | clear =>
    exact Keyspace.agreeOn_deleteAll fun key listed => not_not.2 (Keyspace.mem_under.1 listed).2
  | stats => exact AgreeOn.refl _ _
  | health => exact AgreeOn.refl _ _

/-- Keys that do not begin with the prefix of a cache are none of its business. -/
theorem agreeOn_effect :
    AgreeOn (fun key => ¬ BeginsWith cache.store.keyPrefix key)
      (cache.effect space clocks operation).2.2 space := by
  rw [effect]
  cases cache.pause? clocks.mono with
  | none =>
    have kept := cache.connected.agreeOn_outcome space clocks operation
    rwa [store_connected] at kept
  | some since => exact AgreeOn.refl _ _

variable {cache space} {other : Keyspace}

theorem withinCapacity_congr (now : Instant)
    (agree : AgreeOn (BeginsWith cache.store.keyPrefix) space other) :
    AgreeOn (BeginsWith cache.store.keyPrefix) (cache.withinCapacity (space.showing now))
      (cache.withinCapacity (other.showing now)) := by
  have shown : AgreeOn (BeginsWith cache.store.keyPrefix) (space.showing now) (other.showing now) :=
    agree
  rw [withinCapacity, withinCapacity]
  cases cache.config.capacity? with
  | none => exact shown
  | some maxSize =>
    dsimp only
    rw [agree.ranked now]
    exact shown.deleteAll _

theorem outcome_congr (now : Instant)
    (agree : AgreeOn (BeginsWith cache.store.keyPrefix) space other) :
    (cache.outcome (space.showing now) clocks operation).1 =
        (cache.outcome (other.showing now) clocks operation).1 ∧
      (cache.outcome (space.showing now) clocks operation).2.1 =
        (cache.outcome (other.showing now) clocks operation).2.1 ∧
      AgreeOn (BeginsWith cache.store.keyPrefix)
        (cache.outcome (space.showing now) clocks operation).2.2
        (cache.outcome (other.showing now) clocks operation).2.2 := by
  have found (key : String) : (space.showing now).find? (cache.storeKey key) =
      (other.showing now).find? (cache.storeKey key) := agree.find? (beginsWith_append _ _) now
  have shown : AgreeOn (BeginsWith cache.store.keyPrefix) (space.showing now) (other.showing now) :=
    agree
  cases operation with
  | get key =>
    have same : seen (space.showing now) (cache.storeKey key) clocks.wall =
        seen (other.showing now) (cache.storeKey key) clocks.wall := by
      rw [seen, seen, found]
    simp only [outcome, same, true_and]
    exact shown
  | set key response model tokens =>
    have put : AgreeOn (BeginsWith cache.store.keyPrefix)
        (written cache (space.showing now) clocks.wall key response model tokens)
        (written cache (other.showing now) clocks.wall key response model tokens) :=
      shown.put _ _
    exact ⟨rfl, rfl, withinCapacity_congr now put⟩
  | delete key =>
    have same : (space.showing now).contains (cache.storeKey key) =
        (other.showing now).contains (cache.storeKey key) := by
      rw [Keyspace.contains, Keyspace.contains, found]
    simp only [outcome, same, true_and]
    exact shown.erase _
  | clear =>
    simp only [outcome, agree.under now, true_and]
    exact shown.deleteAll _
  | stats =>
    simp only [outcome, agree.under now, true_and]
    exact shown
  | health =>
    simp only [outcome, agree.under now, true_and]
    exact shown

/-- A cache cannot tell apart two stores that agree on the keys under its prefix. -/
theorem effect_congr (now : Instant)
    (agree : AgreeOn (BeginsWith cache.store.keyPrefix) space other) :
    (cache.effect (space.showing now) clocks operation).1 =
        (cache.effect (other.showing now) clocks operation).1 ∧
      (cache.effect (space.showing now) clocks operation).2.1 =
        (cache.effect (other.showing now) clocks operation).2.1 ∧
      AgreeOn (BeginsWith cache.store.keyPrefix)
        (cache.effect (space.showing now) clocks operation).2.2
        (cache.effect (other.showing now) clocks operation).2.2 := by
  rw [effect, effect]
  cases cache.pause? clocks.mono with
  | none =>
    rw [← store_connected] at agree ⊢
    exact outcome_congr clocks operation now agree
  | some since => exact ⟨rfl, rfl, agree⟩

end Effects

/-! ## Runs -/

/-- An operation on a store: how a scan goes over its keys, and what its clock shows. -/
structure Visit where
  paging : Keyspace.Paging
  now : Instant
  event : Event

/-- What is returned to a visit. -/
def reply (state : SharedCache × Keyspace) (visit : Visit) : Result Answer :=
  (backend (Keyspace.store visit.paging)).answer (state.1, state.2.showing visit.now) visit.event

/-- The cache and the store behind a visit. -/
def behind (state : SharedCache × Keyspace) (visit : Visit) : SharedCache × Keyspace :=
  (backend (Keyspace.store visit.paging)).step (state.1, state.2.showing visit.now) visit.event

/-- The cache and the store behind visits in a row. -/
def behindAll (state : SharedCache × Keyspace) (visits : List Visit) : SharedCache × Keyspace :=
  visits.foldl behind state

@[simp]
theorem behindAll_append_singleton (state : SharedCache × Keyspace) (visits : List Visit)
    (visit : Visit) :
    behindAll state (visits ++ [visit]) = behind (behindAll state visits) visit := by
  simp [behindAll]

section Runs

variable {cache : SharedCache} {space other : Keyspace} {visit : Visit} (fair : visit.paging.Fair)

include fair

theorem reply_eq_effect :
    reply (cache, space) visit =
      .ok (cache.effect (space.showing visit.now) visit.event.clocks visit.event.operation).1 := by
  rw [reply, answer_eq_performed, performed_eq_effect fair]

theorem behind_eq_effect :
    behind (cache, space) visit =
      (cache.effect (space.showing visit.now) visit.event.clocks visit.event.operation).2 := by
  rw [behind, step_eq_performed, performed_eq_effect fair]

theorem store_behind : (behind (cache, space) visit).1.store = cache.store := by
  rw [behind_eq_effect fair]
  exact store_effect _ _ _ _

/-- A visit leaves the keys alone that do not begin with the prefix. -/
theorem agreeOn_behind :
    AgreeOn (fun key => ¬ BeginsWith cache.store.keyPrefix key) (behind (cache, space) visit).2
      space := by
  rw [behind_eq_effect fair]
  exact agreeOn_effect _ (space.showing visit.now) _ _

/-- A visit comes to the same over stores that agree on the keys under the prefix. -/
theorem behind_congr (agree : AgreeOn (BeginsWith cache.store.keyPrefix) space other) :
    reply (cache, space) visit = reply (cache, other) visit ∧
      (behind (cache, space) visit).1 = (behind (cache, other) visit).1 ∧
      AgreeOn (BeginsWith cache.store.keyPrefix) (behind (cache, space) visit).2
        (behind (cache, other) visit).2 := by
  rw [reply_eq_effect fair, reply_eq_effect fair, behind_eq_effect fair, behind_eq_effect fair]
  obtain ⟨sameAnswer, sameCache, agreeBehind⟩ :=
    effect_congr visit.event.clocks visit.event.operation visit.now agree
  exact ⟨congrArg Except.ok sameAnswer, sameCache, agreeBehind⟩

end Runs

/-- Along a run, the settings of the store stay and so does every key that does not begin with the
prefix. -/
theorem agreeOn_behindAll (cache : SharedCache) (space : Keyspace) {visits : List Visit}
    (fair : ∀ visit ∈ visits, visit.paging.Fair) :
    (behindAll (cache, space) visits).1.store = cache.store ∧
      AgreeOn (fun key => ¬ BeginsWith cache.store.keyPrefix key)
        (behindAll (cache, space) visits).2 space := by
  -- From the end, so that the last visit goes by the settings that the earlier ones have kept.
  induction visits using List.reverseRecOn with
  | nil => exact ⟨rfl, AgreeOn.refl _ _⟩
  | append_singleton visits visit ih =>
    obtain ⟨place, kept⟩ := ih fun earlier mem => fair earlier (by simp [mem])
    have last := fair visit (by simp)
    rw [behindAll_append_singleton]
    generalize behindAll (cache, space) visits = state at place kept
    obtain ⟨cache', space'⟩ := state
    dsimp only at place kept
    rw [← place] at kept ⊢
    exact ⟨store_behind last, (agreeOn_behind last).trans kept⟩

/-! ## Removals and counts -/

section Ready

variable {cache : SharedCache} {space : Keyspace} {paging : Keyspace.Paging}

/-- A removal that goes through takes away the keys under the prefix and no other one. -/
theorem find?_clear (fair : paging.Fair) {clocks : Clocks}
    (ok : ((tryClear (Keyspace.store paging) clocks.mono).run.run (cache, space)).1 = .ok ())
    (key : String) {later : Instant} (order : space.now ≤ later) :
    (((clear (Keyspace.store paging) clocks).run (cache, space)).2.2.showing later).find? key =
      if BeginsWith cache.store.keyPrefix key then none else (space.showing later).find? key := by
  -- A removal by a cache that pauses does not go through.
  have joins : cache.pause? clocks.mono = none := by
    cases pause : cache.pause? clocks.mono with
    | none => rfl
    | some since =>
      rw [tryClear, run_bind_of_error (run_connect_of_pausing _ _ pause)] at ok
      cases ok
  have cleared : ((clear (Keyspace.store paging) clocks).run (cache, space)).2 =
      (cache.effect space clocks .clear).2 :=
    congrArg Prod.snd (performed_eq_effect fair cache space clocks .clear)
  rw [cleared, effect, joins]
  dsimp only
  rw [outcome, store_connected]
  exact space.find?_deleteAll_under cache.store.keyPrefix key order

theorem isConnected_outcome (cache : SharedCache) (space : Keyspace) (clocks : Clocks)
    (operation : Operation) :
    (cache.outcome space clocks operation).2.1.isConnected = cache.isConnected := by
  cases operation with
  | get key =>
    rw [outcome, counted]
    split <;> rfl
  | set key response model tokens => rfl
  | delete key => rfl
  | clear => rfl
  | stats => rfl
  | health => rfl

/-- A cache that does not pause does not come to pause over a store that keeps its word. -/
theorem ready_behindAll (ready : cache.Ready) (space : Keyspace) {visits : List Visit}
    (fair : ∀ visit ∈ visits, visit.paging.Fair) :
    (behindAll (cache, space) visits).1.Ready := by
  induction visits using List.reverseRecOn with
  | nil => exact ready
  | append_singleton visits visit ih =>
    have before := ih fun earlier mem => fair earlier (by simp [mem])
    rw [behindAll_append_singleton]
    generalize behindAll (cache, space) visits = state at before
    obtain ⟨cache', space'⟩ := state
    -- A ready cache connects, and no outcome takes the connection away.
    rw [behind_eq_effect (fair visit (by simp)), effect, before.pause?_eq_none]
    exact .inl ((isConnected_outcome _ _ _ _).trans (isConnected_connected _))

/-- The entries that are counted are the keys under the prefix, each once. -/
theorem totalEntries_stats (ready : cache.Ready) (fair : paging.Fair) (clocks : Clocks) :
    ∃ keys : List String, keys.Nodup ∧
      (∀ key, key ∈ keys ↔ space.contains key = true ∧ BeginsWith cache.store.keyPrefix key) ∧
      ((stats (Keyspace.store paging) clocks).run (cache, space)).1.totalEntries = keys.length := by
  refine ⟨space.under cache.store.keyPrefix, (Keyspace.ascending_under _ _).imp ne_of_lt,
    fun key => Keyspace.mem_under, ?_⟩
  rw [run_stats_of_ready ready clocks fair]
  rfl

end Ready

/-! ## Several caches -/

section Several

variable {ι : Type} [DecidableEq ι]

/-- The caches and their store behind a visit of one of them. -/
def turn (state : (ι → SharedCache) × Keyspace) (own : ι × Visit) : (ι → SharedCache) × Keyspace :=
  (Function.update state.1 own.1 (behind (state.1 own.1, state.2) own.2).1,
    (behind (state.1 own.1, state.2) own.2).2)

/-- The caches and their store behind visits in turn. -/
def turnAll (state : (ι → SharedCache) × Keyspace) (turns : List (ι × Visit)) :
    (ι → SharedCache) × Keyspace :=
  turns.foldl turn state

/-- The visits of one cache. -/
def visitsOf (i : ι) (turns : List (ι × Visit)) : List Visit :=
  (turns.filter fun own => own.1 = i).map (·.2)

@[simp]
theorem turnAll_append_singleton (state : (ι → SharedCache) × Keyspace) (turns : List (ι × Visit))
    (own : ι × Visit) : turnAll state (turns ++ [own]) = turn (turnAll state turns) own := by
  simp [turnAll]

theorem visitsOf_append_self (i : ι) (turns : List (ι × Visit)) (visit : Visit) :
    visitsOf i (turns ++ [(i, visit)]) = visitsOf i turns ++ [visit] := by
  simp [visitsOf]

theorem visitsOf_append_of_ne {i j : ι} (other : j ≠ i) (turns : List (ι × Visit)) (visit : Visit) :
    visitsOf i (turns ++ [(j, visit)]) = visitsOf i turns := by
  simp [visitsOf, other]

/-- Neither of two prefixes begins with the other. -/
def Apart (front other : String) : Prop := ¬ BeginsWith front other ∧ ¬ BeginsWith other front

instance (front other : String) : Decidable (Apart front other) :=
  inferInstanceAs (Decidable (_ ∧ _))

/-- What a cache comes to among others is what it comes to alone, when all other prefixes are apart
from its own. -/
theorem turnAll_alone {caches : ι → SharedCache} {space : Keyspace} {i : ι}
    (apart : ∀ j, j ≠ i → Apart (caches j).store.keyPrefix (caches i).store.keyPrefix)
    {turns : List (ι × Visit)} (fair : ∀ own ∈ turns, own.2.paging.Fair) :
    (∀ j, ((turnAll (caches, space) turns).1 j).store = (caches j).store) ∧
      (turnAll (caches, space) turns).1 i = (behindAll (caches i, space) (visitsOf i turns)).1 ∧
      AgreeOn (BeginsWith (caches i).store.keyPrefix) (turnAll (caches, space) turns).2
        (behindAll (caches i, space) (visitsOf i turns)).2 := by
  induction turns using List.reverseRecOn with
  | nil => exact ⟨fun _ => rfl, rfl, AgreeOn.refl _ _⟩
  | append_singleton turns own ih =>
    obtain ⟨places, same, agree⟩ := ih fun earlier mem => fair earlier (by simp [mem])
    have last := fair own (by simp)
    obtain ⟨j, visit⟩ := own
    rw [turnAll_append_singleton]
    generalize turnAll (caches, space) turns = together at places same agree
    obtain ⟨caches', space'⟩ := together
    dsimp only at places same agree last
    have places' : ∀ k, (Function.update caches' j (behind (caches' j, space') visit).1 k).store =
        (caches k).store := by
      intro k
      by_cases here : k = j
      · subst here
        rw [Function.update_self, store_behind last, places]
      · rw [Function.update_of_ne here, places]
    refine ⟨places', ?_⟩
    by_cases itself : j = i
    · -- The cache itself cannot tell the stores apart.
      subst itself
      rw [visitsOf_append_self, behindAll_append_singleton, turn]
      generalize behindAll (caches j, space) (visitsOf j turns) = alone at same agree
      obtain ⟨cache, space''⟩ := alone
      dsimp only at same agree
      subst same
      rw [← places] at agree ⊢
      obtain ⟨-, sameCache, agreeBehind⟩ := behind_congr last agree
      exact ⟨(Function.update_self ..).trans sameCache, agreeBehind⟩
    · -- Another cache leaves alone what does not begin with its prefix.
      rw [visitsOf_append_of_ne itself, turn]
      refine ⟨(Function.update_of_ne (Ne.symm itself) ..).trans same, ?_⟩
      intro key begins
      have foreign : ¬ BeginsWith (caches' j).store.keyPrefix key := by
        rw [places]
        intro theirs
        exact (theirs.comparable begins).elim (apart j itself).1 (apart j itself).2
      exact (agreeOn_behind last key foreign).trans (agree key begins)

end Several

/-! ## Isolation -/

/-- A cache that has been created does not pause. -/
theorem ready_of_create {config : Config} {address : StoreConfig} {cache : SharedCache}
    (created : create config address = .ok cache) : cache.Ready := by
  obtain rfl := create_eq_ok created
  exact .inr rfl

/-- Prefixes are namespaces, whatever characters they have and however scans go over the keys. A run
leaves every key as it is that does not begin with the prefix of the cache. A removal that goes through
takes away exactly the keys that do. A cache that was ready can always remove and counts exactly these
keys. Among caches whose prefixes are apart from its own, a cache leaves and returns what it does alone. -/
theorem namespaces_isolated :
    (∀ (cache : SharedCache) (space : Keyspace) (visits : List Visit),
      (∀ visit ∈ visits, visit.paging.Fair) →
      ∀ (key : String) (now : Instant), ¬ BeginsWith cache.store.keyPrefix key →
        ((behindAll (cache, space) visits).2.showing now).find? key =
            (space.showing now).find? key ∧
          ((behindAll (cache, space) visits).2.showing now).timeToLive key =
            (space.showing now).timeToLive key) ∧
    (∀ (cache : SharedCache) (space : Keyspace) (paging : Keyspace.Paging) (clocks : Clocks),
      paging.Fair →
      ((tryClear (Keyspace.store paging) clocks.mono).run.run (cache, space)).1 = .ok () →
      ∀ (key : String) (later : Instant), space.now ≤ later →
        (((clear (Keyspace.store paging) clocks).run (cache, space)).2.2.showing later).find? key =
          if BeginsWith cache.store.keyPrefix key then none else (space.showing later).find? key) ∧
    (∀ (cache : SharedCache) (space : Keyspace) (visits : List Visit) (after : SharedCache)
      (left : Keyspace), cache.Ready → (∀ visit ∈ visits, visit.paging.Fair) →
      behindAll (cache, space) visits = (after, left) →
      ∀ (paging : Keyspace.Paging) (clocks : Clocks) (now : Instant), paging.Fair →
        ((tryClear (Keyspace.store paging) clocks.mono).run.run (after, left.showing now)).1 =
            .ok () ∧
          ∃ keys : List String, keys.Nodup ∧
            (∀ key, key ∈ keys ↔
              (left.showing now).contains key = true ∧ BeginsWith cache.store.keyPrefix key) ∧
            ((stats (Keyspace.store paging) clocks).run (after, left.showing now)).1.totalEntries =
              keys.length) ∧
    ∀ (ι : Type) [DecidableEq ι] (caches : ι → SharedCache) (space : Keyspace) (i : ι)
      (turns : List (ι × Visit)),
      (∀ j, j ≠ i → Apart (caches j).store.keyPrefix (caches i).store.keyPrefix) →
      (∀ own ∈ turns, own.2.paging.Fair) →
      (turnAll (caches, space) turns).1 i = (behindAll (caches i, space) (visitsOf i turns)).1 ∧
        (∀ (key : String) (now : Instant), BeginsWith (caches i).store.keyPrefix key →
          ((turnAll (caches, space) turns).2.showing now).find? key =
              ((behindAll (caches i, space) (visitsOf i turns)).2.showing now).find? key ∧
            ((turnAll (caches, space) turns).2.showing now).timeToLive key =
              ((behindAll (caches i, space) (visitsOf i turns)).2.showing now).timeToLive key) ∧
        ∀ visit : Visit, visit.paging.Fair →
          reply ((turnAll (caches, space) turns).1 i, (turnAll (caches, space) turns).2) visit =
            reply (behindAll (caches i, space) (visitsOf i turns)) visit := by
  refine ⟨?_, ?_, ?_, ?_⟩
  · intro cache space visits fair key now foreign
    have kept := (agreeOn_behindAll cache space fair).2
    exact ⟨kept.find? foreign now, kept.timeToLive foreign now⟩
  · intro cache space paging clocks fair ok key later order
    exact find?_clear fair ok key order
  · intro cache space visits after left ready fairVisits ran paging clocks now fair
    have place : after.store = cache.store := by
      have kept := (agreeOn_behindAll cache space fairVisits).1
      rwa [ran] at kept
    have still : after.Ready := by
      have kept := ready_behindAll ready space fairVisits
      rwa [ran] at kept
    rw [run_tryClear still clocks.mono fair, ← place]
    exact ⟨rfl, totalEntries_stats still fair clocks⟩
  · intro ι _ caches space i turns apart fair
    obtain ⟨places, same, agree⟩ := turnAll_alone apart fair
    refine ⟨same, fun key now begins => ⟨agree.find? begins now, agree.timeToLive begins now⟩, ?_⟩
    intro visit fairVisit
    rw [← places i] at agree
    rw [(behind_congr fairVisit agree).1, same]

/-- The cache of a prefix, just created. -/
def fresh (front : String) : SharedCache :=
  ⟨Config.default, { StoreConfig.ofUrl "redis://localhost" with keyPrefix := front }, false, none, 0,
    0, 0⟩

/-- A store with keys of two prefixes that are patterns, and one that both patterns match. -/
def crowded : Keyspace :=
  ⟨[("a*1", ⟨"[]", none⟩), ("a?1", ⟨"[]", none⟩), ("ab", ⟨"[]", some 5⟩)], 0⟩

/-- A removal of everything, over a store with one page. -/
def removal : Visit := ⟨.single, 1, ⟨⟨1, 1⟩, .clear⟩⟩

/-- A cache whose prefix is a pattern removes its own keys, and neither those that match the pattern nor
those of another such cache. -/
theorem namespaces_isolated_crowded :
    ((behindAll (fresh "a*", crowded) [removal]).2.showing 1).find? "ab" = some ⟨"[]", some 5⟩ ∧
      (((clear (Keyspace.store .single) ⟨1, 1⟩).run
        (fresh "a*", crowded.showing 1)).2.2.showing 1).find? "a*1" = none ∧
      (∃ keys : List String, keys.Nodup ∧
        (∀ key, key ∈ keys ↔ (crowded.showing 1).contains key = true ∧ BeginsWith "a*" key) ∧
        ((stats (Keyspace.store .single) ⟨1, 1⟩).run
          (fresh "a*", crowded.showing 1)).1.totalEntries = keys.length) ∧
      ((turnAll (fun second => fresh (if second then "a?" else "a*"), crowded)
        [(true, removal)]).2.showing 1).find? "a*1" = some ⟨"[]", none⟩ := by
  obtain ⟨foreign, removed, counted, several⟩ := namespaces_isolated
  have fair : Keyspace.Paging.single.Fair := Keyspace.Paging.fair_single
  have created : create Config.default (fresh "a*").store = .ok (fresh "a*") := rfl
  obtain ⟨ok, keys⟩ := counted (fresh "a*") crowded [] _ _ (ready_of_create created) (by simp) rfl
    .single ⟨1, 1⟩ 1 fair
  have apart : ∀ second, second ≠ false → Apart
      (fresh (if second then "a?" else "a*")).store.keyPrefix (fresh "a*").store.keyPrefix := by
    decide
  refine ⟨?_, ?_, keys, ?_⟩
  · rw [(foreign (fresh "a*") crowded [removal] (by simpa [removal] using fair) "ab" 1
      (by decide)).1]
    decide
  · rw [removed (fresh "a*") (crowded.showing 1) .single ⟨1, 1⟩ fair ok "a*1" 1
      (Int.le_refl 1)]
    exact if_pos (by decide)
  · obtain ⟨-, own, -⟩ := several Bool (fun second => fresh (if second then "a?" else "a*")) crowded
      false [(true, removal)] apart (by simpa [removal] using fair)
    rw [(own "a*1" 1 (by decide)).1]
    decide

end CompletionCache.SharedCache
