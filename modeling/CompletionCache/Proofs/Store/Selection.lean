import CompletionCache.Proofs.Store.Agreement
import Mathlib.Data.Set.Card

/-!
# What a selection leaves

The keys that are there are ranked by their remaining time; the first of them are selected, as many as are
too many, and the others are left (`Eviction.length_select`). So no selected key has a longer time than one
that is left (`Eviction.rank_le_of_taken`). When the selected keys under a prefix are deleted, the store is
trimmed to the capacity (`Keyspace.trimmed_deleteAll`).
-/

set_option autoImplicit false

namespace CompletionCache

namespace Eviction

/-- The keys that are there. -/
def live (keyed : List (String × Int)) : List (String × Int) :=
  keyed.filter fun item => item.2 != goneTtl

/-- The keys that are there, the closest to expiry first. -/
def ranking (keyed : List (String × Int)) : List (String × Int) :=
  (live keyed).mergeSort fun item other => decide (rank item.2 ≤ rank other.2)

theorem select_eq (keyed : List (String × Int)) (maxSize : Nat) :
    select keyed maxSize = ((ranking keyed).take ((live keyed).length - maxSize)).map (·.1) := rfl

theorem length_ranking (keyed : List (String × Int)) :
    (ranking keyed).length = (live keyed).length :=
  List.length_mergeSort _

/-- As many keys are selected as there are too many. -/
theorem length_select (keyed : List (String × Int)) (maxSize : Nat) :
    (select keyed maxSize).length = (live keyed).length - maxSize := by
  rw [select_eq, List.length_map, List.length_take, length_ranking]
  exact Nat.min_eq_left (Nat.sub_le _ _)

/-- No key is selected twice if none is ranked twice. -/
theorem nodup_select {keyed : List (String × Int)} (nodup : (keyed.map (·.1)).Nodup)
    (maxSize : Nat) : (select keyed maxSize).Nodup := by
  have names : ((live keyed).map (·.1)).Nodup := nodup.sublist (List.filter_sublist.map _)
  have ranked : ((ranking keyed).map (·.1)).Nodup :=
    (((live keyed).mergeSort_perm _).map _).nodup_iff.2 names
  exact ranked.sublist ((List.take_sublist _ _).map _)

/-- Keys come in the order of their ranks. -/
def ByRank (items : List (String × Int)) : Prop :=
  items.Pairwise fun item other => rank item.2 ≤ rank other.2

theorem byRank_mergeSort (items : List (String × Int)) :
    ByRank (items.mergeSort fun item other => decide (rank item.2 ≤ rank other.2)) :=
  (List.pairwise_mergeSort rank_trans rank_total items).imp of_decide_eq_true

theorem byRank_ranking (keyed : List (String × Int)) : ByRank (ranking keyed) :=
  byRank_mergeSort (live keyed)

/-- Wherever the ranking is cut, no key in front has a longer time than one behind. -/
theorem rank_le_across {keyed : List (String × Int)} {count : Nat} {item other : String × Int}
    (front : item ∈ (ranking keyed).take count) (behind : other ∈ (ranking keyed).drop count) :
    rank item.2 ≤ rank other.2 := by
  have sorted := byRank_ranking keyed
  rw [← List.take_append_drop count (ranking keyed)] at sorted
  obtain ⟨-, -, across⟩ := List.pairwise_append.1 sorted
  exact across item front other behind

/-- A key among the first in the ranking has no longer a time than one behind them. -/
theorem rank_le_of_taken {keyed : List (String × Int)} {count : Nat} {item other : String × Int}
    (taken : item ∈ (ranking keyed).take count) (ranked : other ∈ ranking keyed)
    (left : other ∉ (ranking keyed).take count) : rank item.2 ≤ rank other.2 := by
  rw [← List.take_append_drop count (ranking keyed)] at ranked
  exact rank_le_across taken ((List.mem_append.1 ranked).resolve_left left)

/-- The time that a reply tells is no longer than that of another one. A key without an expiry has the
longest time. -/
def NoLonger (ttl other : Int) : Prop :=
  other < 0 ∨ (0 ≤ ttl ∧ ttl ≤ other)

/-- A rank decides between two times unless it is reached by a time itself. -/
theorem noLonger_of_rank_le {ttl other : Int} (order : rank ttl ≤ rank other)
    (small : other < 0x7FFFFFFFFFFFFFFF) : NoLonger ttl other := by
  rw [rank, rank] at order
  rw [NoLonger]
  split_ifs at order <;> omega

end Eviction

namespace Keyspace

/-- The keys that are there and begin with a text. -/
def keysUnder (space : Keyspace) (front : String) : Set String :=
  {key | space.contains key = true ∧ BeginsWith front key}

theorem coe_toFinset_under (space : Keyspace) (front : String) :
    ((space.under front).toFinset : Set String) = space.keysUnder front := by
  ext key
  rw [Finset.mem_coe, List.mem_toFinset, mem_under]
  rfl

theorem nodup_under (space : Keyspace) (front : String) : (space.under front).Nodup :=
  (ascending_under space front).imp ne_of_lt

theorem ncard_keysUnder (space : Keyspace) (front : String) :
    (space.keysUnder front).ncard = (space.under front).length := by
  rw [← coe_toFinset_under, Set.ncard_coe_finset, List.toFinset_card_of_nodup (nodup_under _ _)]

theorem map_fst_ranked (space : Keyspace) (front : String) :
    (space.ranked front).map (·.1) = space.under front := by
  rw [ranked, List.map_map]
  exact List.map_id _

/-- What a store has become by a deletion of those keys under a prefix that are too many. -/
structure Trimmed (front : String) (capacity : Nat) (before after : Keyspace) : Prop where
  /-- Nothing is deleted as long as the capacity suffices. -/
  idle : (before.keysUnder front).ncard ≤ capacity → after = before
  /-- Otherwise as many keys remain as the capacity allows. -/
  full : capacity < (before.keysUnder front).ncard → (after.keysUnder front).ncard = capacity
  /-- No key is added. -/
  subset : after.keysUnder front ⊆ before.keysUnder front
  /-- No key is deleted that has a longer time than one that remains. -/
  order : ∀ gone ∈ before.keysUnder front \ after.keysUnder front, ∀ kept ∈ after.keysUnder front,
    Eviction.NoLonger (before.timeToLive gone) (before.timeToLive kept)
  /-- All that is not deleted is as it was. -/
  kept : AgreeOn (fun key => key ∉ before.keysUnder front \ after.keysUnder front) after before

/-- All keys that are listed are there. -/
theorem live_ranked (space : Keyspace) (front : String) :
    Eviction.live (space.ranked front) = space.ranked front := by
  rw [Eviction.live, List.filter_eq_self]
  intro item mem
  obtain ⟨key, listed, rfl⟩ := List.mem_map.1 mem
  exact bne_iff_ne.2 (timeToLive_ne_gone (mem_under.1 listed).1)

section Selected

variable {space : Keyspace} {front : String} {maxSize : Nat}

theorem mem_under_of_selected {key : String}
    (selected : key ∈ Eviction.select (space.ranked front) maxSize) : key ∈ space.under front := by
  rw [← map_fst_ranked]
  exact Eviction.mem_of_mem_select selected

/-- No selected key has a longer time than one that is listed and not selected. -/
theorem noLonger_of_selected {gone kept : String}
    (selected : gone ∈ Eviction.select (space.ranked front) maxSize) (listed : kept ∈ space.under front)
    (left : kept ∉ Eviction.select (space.ranked front) maxSize) :
    Eviction.NoLonger (space.timeToLive gone) (space.timeToLive kept) := by
  rw [Eviction.select_eq] at selected left
  obtain ⟨item, taken, rfl⟩ := List.mem_map.1 selected
  have ranked : ∀ {item : String × Int}, item ∈ Eviction.ranking (space.ranked front) ↔
      item ∈ space.ranked front := by
    intro item
    rw [Eviction.ranking, List.mem_mergeSort, live_ranked]
  obtain ⟨key, -, rfl⟩ := List.mem_map.1 (ranked.1 (List.mem_of_mem_take taken))
  have behind : (kept, space.timeToLive kept) ∈ Eviction.ranking (space.ranked front) :=
    ranked.2 (List.mem_map_of_mem listed)
  refine Eviction.noLonger_of_rank_le ?_ (timeToLive_lt space kept)
  exact Eviction.rank_le_of_taken taken behind fun among => left (List.mem_map_of_mem among)

theorem keysUnder_deleteAll (keys : List String) :
    (space.deleteAll keys).2.keysUnder front = space.keysUnder front \ {key | key ∈ keys} := by
  ext key
  rw [keysUnder, Set.mem_ofPred_eq, contains, find?_deleteAll, Set.mem_sdiff, keysUnder,
    Set.mem_ofPred_eq, Set.mem_ofPred_eq, contains]
  split_ifs with gone
  · simp [gone]
  · simp [gone]

/-- When selected keys are deleted, those are the keys that are gone. -/
theorem mem_selected_iff {key : String} :
    key ∈ space.keysUnder front \ (space.deleteAll
        (Eviction.select (space.ranked front) maxSize)).2.keysUnder front ↔
      key ∈ Eviction.select (space.ranked front) maxSize := by
  rw [keysUnder_deleteAll, Set.sdiff_sdiff_right_self, Set.mem_inter_iff, Set.mem_ofPred_eq]
  exact and_iff_right_of_imp fun selected => mem_under.1 (mem_under_of_selected selected)

/-- Without the selected keys there are as many as the capacity allows, if there were more. -/
theorem ncard_keysUnder_deleteAll (crowded : maxSize < (space.keysUnder front).ncard) :
    ((space.deleteAll (Eviction.select (space.ranked front) maxSize)).2.keysUnder front).ncard =
      maxSize := by
  have nodup : (Eviction.select (space.ranked front) maxSize).Nodup := by
    apply Eviction.nodup_select
    rw [map_fst_ranked]
    exact nodup_under space front
  have victims : {key | key ∈ Eviction.select (space.ranked front) maxSize} =
      ((Eviction.select (space.ranked front) maxSize).toFinset : Set String) := by
    ext key
    simp
  have within : ((Eviction.select (space.ranked front) maxSize).toFinset : Set String) ⊆
      space.keysUnder front := by
    rw [← coe_toFinset_under]
    intro key mem
    simp only [Finset.mem_coe, List.mem_toFinset] at mem ⊢
    exact mem_under_of_selected mem
  rw [keysUnder_deleteAll, victims, Set.ncard_sdiff within (Finset.finite_toSet _),
    Set.ncard_coe_finset, List.toFinset_card_of_nodup nodup, Eviction.length_select, live_ranked,
    ← List.length_map (·.1), map_fst_ranked, ← ncard_keysUnder]
  omega

theorem trimmed_deleteAll (space : Keyspace) (front : String) (maxSize : Nat) :
    Trimmed front maxSize space
      (space.deleteAll (Eviction.select (space.ranked front) maxSize)).2 where
  idle room := by
    rw [ncard_keysUnder] at room
    rw [select_of_length_le room]
    rfl
  full := ncard_keysUnder_deleteAll
  subset := by
    rw [keysUnder_deleteAll]
    exact Set.sdiff_subset
  order gone removed kept left := by
    rw [keysUnder_deleteAll] at left
    exact noLonger_of_selected (mem_selected_iff.1 removed) (mem_under.2 left.1) left.2
  kept key other := by
    rw [lookup_deleteAll, if_neg fun selected => other (mem_selected_iff.2 selected)]

end Selected

end Keyspace

end CompletionCache
