import CompletionCache.Proofs.Store.Selection

/-!
# What a selection is

A selection divides the keys that are there into those that leave and those that stay
(`Eviction.Divided`): as many leave as are too many, those of the smallest ranks, and among keys of one
rank those that come first. There is one such division only, because a list that is sorted by rank is
known from its keys of each rank (`Eviction.eq_of_ofRank_eq`), and sorting leaves these as they come
(`Eviction.ofRank_mergeSort`). So what is selected is exactly what a division lets go
(`Eviction.select_eq_iff_divided`). Ranks follow the times that the replies tell, but the greatest reply
ties with a key without an expiry (`Eviction.rank_le_rank_iff`).
-/

set_option autoImplicit false

namespace CompletionCache.Eviction

/-! ## Keys of one rank -/

/-- The keys of a rank, in the order in which they come. -/
def ofRank (place : Int) (items : List (String × Int)) : List (String × Int) :=
  items.filter fun item => rank item.2 == place

theorem mem_ofRank {place : Int} {items : List (String × Int)} {item : String × Int} :
    item ∈ ofRank place items ↔ item ∈ items ∧ rank item.2 = place := by
  rw [ofRank, List.mem_filter, beq_iff_eq]

theorem ofRank_append (place : Int) (items others : List (String × Int)) :
    ofRank place (items ++ others) = ofRank place items ++ ofRank place others :=
  List.filter_append _ _

theorem ofRank_cons_self (item : String × Int) (items : List (String × Int)) :
    ofRank (rank item.2) (item :: items) = item :: ofRank (rank item.2) items :=
  List.filter_cons_of_pos (beq_self_eq_true _)

theorem ofRank_cons_of_ne {place : Int} {item : String × Int} (differs : rank item.2 ≠ place)
    (items : List (String × Int)) : ofRank place (item :: items) = ofRank place items := by
  apply List.filter_cons_of_neg
  rwa [beq_iff_eq]

/-- Sorting by rank leaves the keys of each rank in the order in which they come. -/
theorem ofRank_mergeSort (place : Int) (items : List (String × Int)) :
    ofRank place (items.mergeSort fun item other => decide (rank item.2 ≤ rank other.2)) =
      ofRank place items := by
  have level : (ofRank place items).Pairwise
      fun item other => decide (rank item.2 ≤ rank other.2) = true := by
    apply List.pairwise_of_forall_mem_list
    intro item mem other among
    apply decide_eq_true
    rw [(mem_ofRank.1 mem).2, (mem_ofRank.1 among).2]
  -- Keys of one rank are sorted as they are, so the sorted list has them in this order.
  have kept := List.sublist_mergeSort rank_trans rank_total level List.filter_sublist
  have within := kept.filter fun item => rank item.2 == place
  rw [ofRank, List.filter_filter] at within
  simp only [Bool.and_self] at within
  have perm := List.mergeSort_perm items fun item other => decide (rank item.2 ≤ rank other.2)
  exact (within.eq_of_length (perm.filter _).length_eq.symm).symm

theorem mem_iff_of_ofRank_eq {items others : List (String × Int)}
    (same : ∀ place, ofRank place items = ofRank place others) (item : String × Int) :
    item ∈ items ↔ item ∈ others := by
  have level : item ∈ ofRank (rank item.2) items ↔ item ∈ ofRank (rank item.2) others := by
    rw [same]
  simpa [mem_ofRank] using level

/-- In a list that is sorted by rank, nothing is of a smaller rank than the first key. -/
theorem rank_head_le {item other : String × Int} {items : List (String × Int)}
    (sorted : ByRank (item :: items)) (mem : other ∈ item :: items) : rank item.2 ≤ rank other.2 := by
  rcases List.mem_cons.1 mem with rfl | behind
  · exact Int.le_refl _
  · exact List.rel_of_pairwise_cons sorted behind

/-- A list that is sorted by rank is known from its keys of each rank. -/
theorem eq_of_ofRank_eq {items others : List (String × Int)}
    (sorted : ByRank items) (alsoSorted : ByRank others)
    (same : ∀ place, ofRank place items = ofRank place others) : items = others := by
  have members := mem_iff_of_ofRank_eq same
  induction items generalizing others with
  | nil =>
    symm
    apply List.eq_nil_iff_forall_not_mem.2
    intro item mem
    exact List.not_mem_nil ((members item).2 mem)
  | cons item items ih =>
    cases others with
    | nil => exact absurd ((members item).1 List.mem_cons_self) List.not_mem_nil
    | cons other others =>
      -- The first key of either list is of the smallest rank, so it is the first one of that rank.
      have level : rank other.2 = rank item.2 := by
        apply Int.le_antisymm
        · exact rank_head_le alsoSorted ((members item).1 List.mem_cons_self)
        · exact rank_head_le sorted ((members other).2 List.mem_cons_self)
      have firsts := same (rank item.2)
      rw [ofRank_cons_self, ← level, ofRank_cons_self, level, List.cons.injEq] at firsts
      obtain ⟨rfl, rests⟩ := firsts
      have sameRest : ∀ place, ofRank place items = ofRank place others := by
        intro place
        rcases eq_or_ne (rank item.2) place with rfl | differs
        · exact rests
        · have both := same place
          rwa [ofRank_cons_of_ne differs, ofRank_cons_of_ne differs] at both
      rw [ih sorted.of_cons alsoSorted.of_cons sameRest (mem_iff_of_ofRank_eq sameRest)]

/-! ## Divisions -/

/-- The keys that are there, divided into those that leave and those that stay so that at most
`maxSize` remain. -/
structure Divided (keyed : List (String × Int)) (maxSize : Nat)
    (leaving staying : List (String × Int)) : Prop where
  /-- As many keys leave as there are too many. -/
  length : leaving.length = (live keyed).length - maxSize
  /-- Every key that is there either leaves or stays, and no other does. -/
  perm : (leaving ++ staying).Perm (live keyed)
  /-- No key leaves that ranks behind one that stays. -/
  order : ∀ gone ∈ leaving, ∀ kept ∈ staying, rank gone.2 ≤ rank kept.2
  /-- The leaving keys come in the order of their ranks. -/
  sorted : ByRank leaving
  /-- Of the keys of one rank the first ones leave, in the order in which they come. -/
  stable : ∀ place, ofRank place leaving ++ ofRank place staying = ofRank place (live keyed)

theorem ofRank_ranking (place : Int) (keyed : List (String × Int)) :
    ofRank place (ranking keyed) = ofRank place (live keyed) :=
  ofRank_mergeSort place (live keyed)

/-- A cut through the ranking is a division. -/
theorem divided_ranking (keyed : List (String × Int)) (maxSize : Nat) :
    Divided keyed maxSize ((ranking keyed).take ((live keyed).length - maxSize))
      ((ranking keyed).drop ((live keyed).length - maxSize)) := by
  constructor
  case length =>
    rw [← List.length_map (·.1), ← select_eq]
    exact length_select keyed maxSize
  case perm =>
    rw [List.take_append_drop]
    exact List.mergeSort_perm _ _
  case order =>
    intro gone front kept behind
    exact rank_le_across front behind
  case sorted => exact List.Pairwise.sublist (List.take_sublist _ _) (byRank_ranking keyed)
  case stable =>
    intro place
    rw [← ofRank_append, List.take_append_drop, ofRank_ranking]

/-- There is no other division than a cut through the ranking. -/
theorem Divided.eq_take {keyed : List (String × Int)} {maxSize : Nat}
    {leaving staying : List (String × Int)} (divided : Divided keyed maxSize leaving staying) :
    leaving = (ranking keyed).take ((live keyed).length - maxSize) := by
  -- With the staying keys sorted as well, the two parts are the ranking.
  let behind := staying.mergeSort fun item other => decide (rank item.2 ≤ rank other.2)
  have sorted : ByRank (leaving ++ behind) := by
    apply List.pairwise_append.2
    refine ⟨divided.sorted, byRank_mergeSort staying, ?_⟩
    intro gone left kept mem
    exact divided.order gone left kept (List.mem_mergeSort.1 mem)
  have whole : leaving ++ behind = ranking keyed := by
    apply eq_of_ofRank_eq sorted (byRank_ranking keyed)
    intro place
    rw [ofRank_append, ofRank_mergeSort, divided.stable, ofRank_ranking]
  rw [← whole, ← divided.length, List.take_left]

/-! ## Ranks -/

/-- Of two replies of 64 bits the one that tells no longer a time ranks no later. The greatest reply has
the rank of a negative one, so a negative one ranks no later than it either. -/
theorem rank_le_rank_iff {ttl other : Int} (reply : ttl ≤ 0x7FFFFFFFFFFFFFFF)
    (alsoReply : other ≤ 0x7FFFFFFFFFFFFFFF) :
    rank ttl ≤ rank other ↔ NoLonger ttl other ∨ (ttl < 0 ∧ other = 0x7FFFFFFFFFFFFFFF) := by
  rw [rank, rank, NoLonger]
  split_ifs <;> omega

/-- If all replies are below the greatest one, no key leaves that has a longer time than one that
stays. -/
theorem Divided.noLonger {keyed : List (String × Int)} {maxSize : Nat}
    {leaving staying : List (String × Int)} (divided : Divided keyed maxSize leaving staying)
    (small : ∀ item ∈ keyed, item.2 < 0x7FFFFFFFFFFFFFFF) {gone kept : String × Int}
    (leaves : gone ∈ leaving) (stays : kept ∈ staying) : NoLonger gone.2 kept.2 := by
  have there : kept ∈ live keyed := divided.perm.subset (List.mem_append_right leaving stays)
  exact noLonger_of_rank_le (divided.order gone leaves kept stays) (small kept (List.mem_filter.1 there).1)

/-- Keys that are gone make no difference. -/
theorem select_live (keyed : List (String × Int)) (maxSize : Nat) :
    select (live keyed) maxSize = select keyed maxSize := by
  have same : live (live keyed) = live keyed := by
    rw [live, live, List.filter_filter]
    simp only [Bool.and_self]
  rw [select_eq, select_eq, ranking, ranking, same]

/-- The selected keys are exactly those that leave in the division of the keys that are there, and keys
that are gone make no difference. Replies of 64 bits rank by the time that they tell, negative ones last,
but for one tie: a negative reply ranks no later than the greatest one. Below the greatest reply no key
leaves that has a longer time than one that stays. -/
theorem select_eq_iff_divided (keyed : List (String × Int)) (maxSize : Nat) (keys : List String) :
    (select keyed maxSize = keys ↔
        ∃ leaving staying, Divided keyed maxSize leaving staying ∧ leaving.map (·.1) = keys) ∧
      select (live keyed) maxSize = select keyed maxSize ∧
      (∀ ttl other : Int, ttl ≤ 0x7FFFFFFFFFFFFFFF → other ≤ 0x7FFFFFFFFFFFFFFF →
        (rank ttl ≤ rank other ↔ NoLonger ttl other ∨ (ttl < 0 ∧ other = 0x7FFFFFFFFFFFFFFF))) ∧
      ((∀ item ∈ keyed, item.2 < 0x7FFFFFFFFFFFFFFF) →
        ∀ leaving staying, Divided keyed maxSize leaving staying →
          ∀ gone ∈ leaving, ∀ kept ∈ staying, NoLonger gone.2 kept.2) := by
  refine ⟨?_, select_live keyed maxSize, fun _ _ => rank_le_rank_iff, ?_⟩
  · rw [select_eq]
    constructor
    · intro selected
      exact ⟨_, _, divided_ranking keyed maxSize, selected⟩
    · rintro ⟨leaving, staying, divided, names⟩
      rw [← divided.eq_take, names]
  · intro small leaving staying divided gone leaves kept stays
    exact divided.noLonger small leaves stays

/-- In the tie the keys are taken as they come: a key without an expiry leaves, and one with the greatest
reply stays behind it. -/
theorem endless_selected_before_greatest :
    select [("endless", -1), ("late", 0x7FFFFFFFFFFFFFFF)] 1 = ["endless"] ∧
      ¬NoLonger (-1) 0x7FFFFFFFFFFFFFFF := by
  constructor
  · -- Both are of one rank, so sorting leaves them as they come.
    have level : ranking [("endless", -1), ("late", 0x7FFFFFFFFFFFFFFF)] =
        [("endless", -1), ("late", 0x7FFFFFFFFFFFFFFF)] := List.mergeSort_of_pairwise (by decide)
    rw [select_eq, level]
    rfl
  · rw [NoLonger]
    omega

example : select [("late", 7), ("first", 5), ("gone", -2), ("endless", -1), ("second", 5)] 2 =
    ["first", "second"] := by cbv

end CompletionCache.Eviction
