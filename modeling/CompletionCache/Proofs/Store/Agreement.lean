import CompletionCache.Proofs.Store.Eviction

/-!
# Stores that agree on some keys

Two stores agree on some keys when they keep the same values with the same expiries under them
(`Keyspace.AgreeOn`). Then nothing that is asked about these keys tells them apart, at any instant, and
the same change of both leaves them in agreement. A change of other keys is not noticed at all.
-/

set_option autoImplicit false

namespace CompletionCache

namespace Eviction

/-- Only keys that are ranked are selected. -/
theorem mem_of_mem_select {keyed : List (String × Int)} {maxSize : Nat} {key : String}
    (selected : key ∈ select keyed maxSize) : key ∈ keyed.map (·.1) := by
  obtain ⟨item, taken, rfl⟩ := List.mem_map.1 selected
  have live := List.mem_mergeSort.1 (List.mem_of_mem_take taken)
  exact List.mem_map_of_mem (List.mem_filter.1 live).1

end Eviction

namespace Keyspace

/-- Both stores keep the same under some keys: the same values with the same expiries. -/
def AgreeOn (Observed : String → Prop) (space other : Keyspace) : Prop :=
  ∀ key, Observed key → space.items.lookup key = other.items.lookup key

/-! ## Agreement -/

section Agreement

variable {Observed : String → Prop} {space other : Keyspace}

theorem AgreeOn.refl (Observed : String → Prop) (space : Keyspace) : AgreeOn Observed space space :=
  fun _ _ => rfl

theorem AgreeOn.trans {third : Keyspace} (first : AgreeOn Observed space other)
    (second : AgreeOn Observed other third) : AgreeOn Observed space third :=
  fun key observed => (first key observed).trans (second key observed)

/-- At every instant, what is found under the keys is the same. -/
theorem AgreeOn.find? (agree : AgreeOn Observed space other) {key : String} (observed : Observed key)
    (now : Instant) : (space.showing now).find? key = (other.showing now).find? key := by
  change (space.items.lookup key).filter _ = (other.items.lookup key).filter _
  rw [agree key observed]
  rfl

/-- At every instant, the remaining times of the keys are the same. -/
theorem AgreeOn.timeToLive (agree : AgreeOn Observed space other) {key : String}
    (observed : Observed key) (now : Instant) :
    (space.showing now).timeToLive key = (other.showing now).timeToLive key := by
  rw [Keyspace.timeToLive, Keyspace.timeToLive, agree.find? observed now]
  rfl

/-- What is put into both is put into stores that agree. -/
theorem AgreeOn.put (agree : AgreeOn Observed space other) (key : String) (stored : Stored) :
    AgreeOn Observed (space.put key stored) (other.put key stored) := by
  intro name observed
  rw [lookup_put, lookup_put, agree name observed]

theorem AgreeOn.erase (agree : AgreeOn Observed space other) (key : String) :
    AgreeOn Observed (space.erase key) (other.erase key) := by
  intro name observed
  rw [lookup_erase, lookup_erase, agree name observed]

theorem AgreeOn.deleteAll (agree : AgreeOn Observed space other) (keys : List String) :
    AgreeOn Observed (space.deleteAll keys).2 (other.deleteAll keys).2 := by
  intro name observed
  rw [lookup_deleteAll, lookup_deleteAll, agree name observed]

/-! ## Changes that are not observed -/

theorem agreeOn_put {key : String} (hidden : ¬ Observed key) (stored : Stored) :
    AgreeOn Observed (space.put key stored) space := by
  intro name observed
  rw [lookup_put, if_neg (by rintro rfl; exact hidden observed)]

theorem agreeOn_erase {key : String} (hidden : ¬ Observed key) :
    AgreeOn Observed (space.erase key) space := by
  intro name observed
  rw [lookup_erase, if_neg (by rintro rfl; exact hidden observed)]

theorem agreeOn_deleteAll {keys : List String} (hidden : ∀ key ∈ keys, ¬ Observed key) :
    AgreeOn Observed (space.deleteAll keys).2 space := by
  intro name observed
  rw [lookup_deleteAll, if_neg fun mem => hidden name mem observed]

end Agreement

/-! ## Keys under a prefix -/

section Under

variable {front : String} {space other : Keyspace}

/-- Stores that agree on the keys under a prefix list the same ones. -/
theorem AgreeOn.under (agree : AgreeOn (BeginsWith front) space other) (now : Instant) :
    (space.showing now).under front = (other.showing now).under front := by
  apply eq_of_mem_iff
  · exact ascending_under _ _
  · exact ascending_under _ _
  · intro key
    rw [mem_under, mem_under, and_congr_left_iff]
    intro begins
    rw [contains, contains, agree.find? begins now]

theorem AgreeOn.ranked (agree : AgreeOn (BeginsWith front) space other) (now : Instant) :
    (space.showing now).ranked front = (other.showing now).ranked front := by
  rw [Keyspace.ranked, Keyspace.ranked, agree.under now, List.map_inj_left]
  intro key listed
  rw [agree.timeToLive (mem_under.1 listed).2 now]

/-- Only keys under the prefix are selected. -/
theorem beginsWith_of_mem_select {maxSize : Nat} {key : String}
    (selected : key ∈ Eviction.select (space.ranked front) maxSize) : BeginsWith front key := by
  obtain ⟨item, ranked, rfl⟩ := List.mem_map.1 (Eviction.mem_of_mem_select selected)
  obtain ⟨key, listed, rfl⟩ := List.mem_map.1 ranked
  exact (mem_under.1 listed).2

/-- When selected keys are deleted, nothing happens to those that are not under the prefix. -/
theorem agreeOn_deleteAll_selected (space : Keyspace) (front : String) (maxSize : Nat) :
    AgreeOn (fun key => ¬ BeginsWith front key)
      (space.deleteAll (Eviction.select (space.ranked front) maxSize)).2 space :=
  agreeOn_deleteAll fun _ selected => not_not.2 (beginsWith_of_mem_select selected)

end Under

end Keyspace

end CompletionCache
