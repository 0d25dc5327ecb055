import CompletionCache.Proofs.Store.Keyspace
import CompletionCache.Store.Eviction
import Mathlib.Data.List.Nodup

/-!
# Which keys are evicted

The keys come in order, and sorting them by rank keeps that order among equals. So they stand by
rank and then by name (`pairwise_before_mergeSort`), and a key stays exactly when fewer keys than the
capacity stand behind it (`mem_select_iff`). Of the keys under a prefix those are the ones that outlast
it (`mem_select_ranked_iff`), which a write of the key itself does not change (`outlasting_put`).
-/

set_option autoImplicit false

namespace CompletionCache

namespace Eviction

/-- A key is evicted before another one: it is closer to its expiry, or just as close and its name
comes first. -/
def Before (item other : String × Int) : Prop :=
  rank item.2 < rank other.2 ∨ rank item.2 = rank other.2 ∧ item.1 < other.1

instance (item other : String × Int) : Decidable (Before item other) :=
  inferInstanceAs (Decidable (_ ∨ _ ∧ _))

theorem Before.asymm {item other : String × Int} (before : Before item other) :
    ¬ Before other item := by
  rintro (closer | ⟨same, first⟩)
  · rcases before with opposite | ⟨same, -⟩
    · exact Int.lt_asymm closer opposite
    · exact Int.ne_of_gt closer same
  · rcases before with opposite | ⟨-, opposite⟩
    · exact Int.ne_of_gt opposite same
    · exact lt_asymm first opposite

theorem rank_trans (a b c : String × Int) (first : decide (rank a.2 ≤ rank b.2) = true)
    (second : decide (rank b.2 ≤ rank c.2) = true) : decide (rank a.2 ≤ rank c.2) = true := by
  rw [decide_eq_true_eq] at first second ⊢
  exact Int.le_trans first second

theorem rank_total (a b : String × Int) :
    (decide (rank a.2 ≤ rank b.2) || decide (rank b.2 ≤ rank a.2)) = true := by
  rw [Bool.or_eq_true, decide_eq_true_eq, decide_eq_true_eq]
  exact Int.le_total _ _

/-- Sorted by rank, keys that come in order stand in the order in which they are evicted. -/
theorem pairwise_before_mergeSort {keyed : List (String × Int)}
    (ascending : keyed.Pairwise fun item other => item.1 < other.1) :
    (keyed.mergeSort fun a b => decide (rank a.2 ≤ rank b.2)).Pairwise Before := by
  induction keyed with
  | nil =>
    rw [List.mergeSort_nil]
    exact List.Pairwise.nil
  | cons item keyed ih =>
    obtain ⟨first, rest⟩ := List.pairwise_cons.1 ascending
    have sorted := List.pairwise_mergeSort rank_trans rank_total (item :: keyed)
    -- The first item is put in front of all that do not rank below it.
    obtain ⟨front, back, split, without, less⟩ := List.mergeSort_cons rank_trans rank_total item keyed
    have others := ih rest
    rw [without, List.pairwise_append] at others
    rw [split, List.pairwise_append] at sorted ⊢
    obtain ⟨inFront, inBack, across⟩ := others
    refine ⟨inFront, List.pairwise_cons.2 ⟨?_, inBack⟩, ?_⟩
    · intro other mem
      have listed : other ∈ keyed :=
        List.mem_mergeSort.1 (without ▸ List.mem_append_right front mem)
      have order := of_decide_eq_true (List.rel_of_pairwise_cons sorted.2.1 mem)
      rcases Int.lt_or_eq_of_le order with closer | same
      · exact .inl closer
      · exact .inr ⟨same, first other listed⟩
    · intro earlier mem other among
      rcases List.mem_cons.1 among with rfl | behind
      · have below := less earlier mem
        rw [Bool.not_eq_true', decide_eq_false_iff_not, Int.not_le] at below
        exact .inl below
      · exact across earlier mem other behind

/-- Of a list in order, all but the last `kept` are taken: an item is among them if there are as many
behind it. -/
theorem mem_take_sub_iff {items : List (String × Int)} (sorted : items.Pairwise Before)
    {item : String × Int} (mem : item ∈ items) (kept : Nat) :
    item ∈ items.take (items.length - kept) ↔
      kept ≤ (items.filter fun other => decide (Before item other)).length := by
  obtain ⟨front, back, rfl⟩ := List.append_of_mem mem
  obtain ⟨-, behind, across⟩ := List.pairwise_append.1 sorted
  obtain ⟨later, -⟩ := List.pairwise_cons.1 behind
  have irreflexive : ¬ Before item item := fun before => before.asymm before
  -- Behind the item stand those that are evicted after it, and nothing else does.
  have filtered : (front ++ item :: back).filter (fun other => decide (Before item other)) =
      back := by
    have none : front.filter (fun other => decide (Before item other)) = [] := by
      rw [List.filter_eq_nil_iff]
      intro other inFront
      rw [decide_eq_true_eq]
      exact (across other inFront item List.mem_cons_self).asymm
    have all : back.filter (fun other => decide (Before item other)) = back :=
      List.filter_eq_self.2 fun other inBack => decide_eq_true (later other inBack)
    rw [List.filter_append, none, List.nil_append,
      List.filter_cons_of_neg (by rwa [decide_eq_true_eq]), all]
  have absent : item ∉ front := fun inFront =>
    irreflexive (across item inFront item List.mem_cons_self)
  rw [filtered, List.length_append, List.length_cons]
  constructor
  · intro taken
    by_contra more
    rw [List.take_append_of_le_length (by omega)] at taken
    exact absent (List.mem_of_mem_take taken)
  · intro enough
    rw [List.take_append, List.mem_append]
    right
    have one : front.length + (back.length + 1) - kept - front.length =
      (back.length - kept) + 1 := by omega
    rw [one, List.take_succ_cons]
    exact List.mem_cons_self

/-- Of keys that are all there, one is selected when the capacity is used up by those that are evicted
after it. -/
theorem mem_select_iff {keyed : List (String × Int)}
    (ascending : keyed.Pairwise fun item other => item.1 < other.1)
    (there : ∀ item ∈ keyed, item.2 ≠ goneTtl) {item : String × Int} (mem : item ∈ keyed)
    (maxSize : Nat) :
    item.1 ∈ select keyed maxSize ↔
      maxSize ≤ (keyed.filter fun other => decide (Before item other)).length := by
  have live : keyed.filter (fun item => item.2 != goneTtl) = keyed :=
    List.filter_eq_self.2 fun item mem => bne_iff_ne.2 (there item mem)
  -- Sorting changes neither how many keys there are nor how many stand behind one.
  have sorted := pairwise_before_mergeSort ascending
  have perm := List.mergeSort_perm keyed fun a b => decide (rank a.2 ≤ rank b.2)
  rw [select, live, ← (perm.filter _).length_eq, ← perm.length_eq,
    ← mem_take_sub_iff sorted (List.mem_mergeSort.2 mem)]
  constructor
  · intro selected
    obtain ⟨other, taken, same⟩ := List.mem_map.1 selected
    -- No two keys have one name.
    have listed : other ∈ keyed := List.mem_mergeSort.1 (List.mem_of_mem_take taken)
    have distinct : (keyed.map (·.1)).Nodup :=
      List.Pairwise.imp ne_of_lt (List.pairwise_map.2 ascending)
    rwa [← List.inj_on_of_nodup_map distinct listed mem same]
  · exact fun taken => List.mem_map_of_mem taken

end Eviction

namespace Keyspace

/-- The keys under a prefix, with what the store replies to the question for their remaining time. -/
def ranked (space : Keyspace) (front : String) : List (String × Int) :=
  (space.under front).map fun key => (key, space.timeToLive key)

/-- The other keys under a prefix that are evicted after a key with a remaining time in seconds. -/
def outlasting (space : Keyspace) (front key : String) (ttl : Int) : List String :=
  (space.under front).filter fun other =>
    decide (other ≠ key ∧ Eviction.Before (key, ttl) (other, space.timeToLive other))

theorem timeToLive_ne_gone {space : Keyspace} {key : String} (there : space.contains key = true) :
    space.timeToLive key ≠ Eviction.goneTtl := by
  obtain ⟨⟨value, expiry⟩, found⟩ := (contains_eq_true_iff space key).1 there
  rw [timeToLive, found, Eviction.goneTtl]
  cases expiry with
  | none =>
    dsimp only
    decide
  | some expiry =>
    dsimp only
    omega

/-- A time that is reported never takes up all 64 bits of a reply. -/
theorem timeToLive_lt (space : Keyspace) (key : String) :
    space.timeToLive key < 0x7FFFFFFFFFFFFFFF := by
  have small : ∀ left, reported left < 0x7FFFFFFFFFFFFFFF := by
    intro left
    rw [reported]
    omega
  rw [timeToLive]
  split
  · decide
  · decide
  · exact Int.ofNat_lt.2 (small _)

/-- Of what is ranked, a key is selected when as many others as the capacity are evicted after it. -/
theorem mem_select_ranked_iff {space : Keyspace} {front key : String} (mem : key ∈ space.under front)
    (maxSize : Nat) :
    key ∈ Eviction.select (space.ranked front) maxSize ↔
      maxSize ≤ (space.outlasting front key (space.timeToLive key)).length := by
  have ascending : (space.ranked front).Pairwise fun item other => item.1 < other.1 :=
    List.pairwise_map.2 (ascending_under space front)
  have there : ∀ item ∈ space.ranked front, item.2 ≠ Eviction.goneTtl := by
    intro item among
    obtain ⟨other, listed, rfl⟩ := List.mem_map.1 among
    exact timeToLive_ne_gone (mem_under.1 listed).1
  have same : ((space.ranked front).filter fun other =>
      decide (Eviction.Before (key, space.timeToLive key) other)).length =
      (space.outlasting front key (space.timeToLive key)).length := by
    rw [ranked, List.filter_map, List.length_map, outlasting]
    congr 1
    apply List.filter_congr
    intro other _
    rw [Function.comp_apply, decide_eq_decide, iff_and_self]
    -- No key is evicted after itself.
    rintro before rfl
    exact before.asymm before
  rw [← same, ← Eviction.mem_select_iff ascending there (List.mem_map_of_mem mem)]

/-! ## Puts -/

section Puts

variable (space : Keyspace) (key value : String) {seconds : Nat} (lasting : 0 < seconds)

include lasting

/-- What is put for a while is there. -/
theorem find?_put_lasting :
    (space.put key ⟨value, some (space.now + Duration.ofSeconds seconds)⟩).find? key =
      some ⟨value, some (space.now + Duration.ofSeconds seconds)⟩ := by
  have live : Stored.isLiveAt ⟨value, some (space.now + Duration.ofSeconds seconds)⟩ space.now =
      true := by
    have ahead : 0 < Duration.ofSeconds seconds := Nat.mul_pos lasting (by decide)
    exact decide_eq_true (Int.lt_add_of_pos_right _ (Int.ofNat_lt.2 ahead))
  rw [find?_put, if_pos rfl, Option.filter_some, if_pos live]

theorem timeToLive_put_self :
    (space.put key ⟨value, some (space.now + Duration.ofSeconds seconds)⟩).timeToLive key =
      reported (Duration.ofSeconds seconds) := by
  have left : Instant.remaining (space.now + Duration.ofSeconds seconds) space.now =
      Duration.ofSeconds seconds := by
    have difference : space.now + (Duration.ofSeconds seconds : Int) - space.now =
        Duration.ofSeconds seconds := Int.sub_eq_iff_eq_add'.2 rfl
    rw [Instant.remaining, difference, Int.toNat_natCast]
  rw [timeToLive, find?_put_lasting space key value lasting]
  exact congrArg (fun left => (reported left : Int)) left

end Puts

theorem find?_put_of_ne (space : Keyspace) {key other : String} (differs : other ≠ key)
    (stored : Stored) : (space.put key stored).find? other = space.find? other := by
  rw [find?_put, if_neg differs]

theorem timeToLive_put_of_ne (space : Keyspace) {key other : String} (differs : other ≠ key)
    (stored : Stored) : (space.put key stored).timeToLive other = space.timeToLive other := by
  rw [timeToLive, find?_put_of_ne space differs]
  rfl

/-- The written key does not count among those that outlast it, and nothing happens to the others. -/
theorem outlasting_put (space : Keyspace) (front key : String) (stored : Stored) (ttl : Int) :
    (space.put key stored).outlasting front key ttl = space.outlasting front key ttl := by
  apply eq_of_mem_iff
  · exact (ascending_under _ _).filter _
  · exact (ascending_under _ _).filter _
  · intro other
    rw [outlasting, outlasting, List.mem_filter, List.mem_filter, mem_under, mem_under,
      decide_eq_true_eq, decide_eq_true_eq]
    -- The written key itself is left out on both sides.
    by_cases differs : other = key
    · simp [differs]
    · rw [contains, contains, find?_put_of_ne space differs, timeToLive_put_of_ne space differs]

/-- Nothing is selected when the capacity is not used up. -/
theorem select_of_length_le {space : Keyspace} {front : String} {maxSize : Nat}
    (room : (space.under front).length ≤ maxSize) :
    Eviction.select (space.ranked front) maxSize = [] := by
  have fewer : ((space.ranked front).filter fun item => item.2 != Eviction.goneTtl).length ≤
      maxSize := by
    refine Nat.le_trans (List.length_filter_le _ _) ?_
    rwa [ranked, List.length_map]
  rw [Eviction.select, Nat.sub_eq_zero_of_le fewer]
  rfl

end Keyspace

end CompletionCache
