import CompletionCache.Proofs.Recency.Keys
import Mathlib.Data.Finset.Card
import Mathlib.Data.List.Induction

/-!
# The order of last uses

`latestFirst` lists the keys of a sequence of uses, the one used last in front, each key once.
`usedSince` is the set of the keys used behind the last use of a key; it has as many elements as
there are keys in front of the key in that list (`card_usedSince`). A table whose keys are a sublist
of it therefore has a key that was used among the last ones near its front
(`mem_take_of_sublist_latestFirst`).
-/

set_option autoImplicit false

namespace CompletionCache.Recency

/-- The keys in front of a key in a list. -/
def inFrontOf (key : String) (keys : List String) : List String := keys.takeWhile (· != key)

/-- The keys of a sequence of uses, the one used last in front, each once. -/
def latestFirst (uses : List String) : List String :=
  uses.foldl (fun order key => key :: order.filter (· != key)) []

/-- The keys that were used behind the last use of a key. -/
def usedSince (key : String) (uses : List String) : Finset String :=
  (inFrontOf key uses.reverse).toFinset

@[simp]
theorem latestFirst_append_singleton (uses : List String) (key : String) :
    latestFirst (uses ++ [key]) = key :: (latestFirst uses).filter (· != key) := by
  simp [latestFirst]

theorem nodup_latestFirst (uses : List String) : (latestFirst uses).Nodup := by
  induction uses using List.reverseRecOn with
  | nil => exact List.nodup_nil
  | append_singleton uses key ih =>
    rw [latestFirst_append_singleton, List.nodup_cons]
    exact ⟨by simp, ih.filter _⟩

theorem inFrontOf_cons_self (key : String) (keys : List String) :
    inFrontOf key (key :: keys) = [] := by
  simp [inFrontOf]

theorem inFrontOf_cons_of_ne {key other : String} (differs : other ≠ key) (keys : List String) :
    inFrontOf key (other :: keys) = other :: inFrontOf key keys := by
  simp [inFrontOf, differs]

/-- Leaving out another key leaves it out in front of the key. -/
theorem inFrontOf_filter {key other : String} (differs : other ≠ key) (keys : List String) :
    inFrontOf key (keys.filter (· != other)) = (inFrontOf key keys).filter (· != other) := by
  induction keys with
  | nil => rfl
  | cons head rest ih =>
    by_cases same : head = key
    · subst same
      rw [List.filter_cons_of_pos (by simpa using Ne.symm differs), inFrontOf_cons_self,
        inFrontOf_cons_self, List.filter_nil]
    · rw [inFrontOf_cons_of_ne same]
      by_cases left : head = other
      · subst left
        rw [List.filter_cons_of_neg (by simp), List.filter_cons_of_neg (by simp), ih]
      · rw [List.filter_cons_of_pos (by simpa using left), inFrontOf_cons_of_ne same,
          List.filter_cons_of_pos (by simpa using left), ih]

/-! ## Counting the keys used since -/

@[simp]
theorem usedSince_append_self (key : String) (uses : List String) :
    usedSince key (uses ++ [key]) = ∅ := by
  simp [usedSince, inFrontOf]

@[simp]
theorem usedSince_append_of_ne {key other : String} (differs : other ≠ key)
    (uses : List String) : usedSince key (uses ++ [other]) = insert other (usedSince key uses) := by
  simp [usedSince, inFrontOf, differs]

/-- More uses of other keys are more keys used since. -/
theorem card_usedSince_le {key : String} {other : Option String} (differs : other ≠ some key)
    (uses : List String) :
    (usedSince key uses).card ≤ (usedSince key (uses ++ other.toList)).card := by
  cases other with
  | none => simp
  | some other =>
    have unequal : other ≠ key := by simpa using differs
    rw [Option.toList_some, usedSince_append_of_ne unequal]
    exact Finset.card_le_card (Finset.subset_insert _ _)

/-- The keys used since the last use of a key stand in front of it. -/
theorem toFinset_inFrontOf_latestFirst (key : String) (uses : List String) :
    (inFrontOf key (latestFirst uses)).toFinset = usedSince key uses := by
  induction uses using List.reverseRecOn with
  | nil => rfl
  | append_singleton uses other ih =>
    rw [latestFirst_append_singleton]
    -- A use of the key itself leaves nothing in front of it; any other use is put there, once.
    by_cases same : other = key
    · subst same
      rw [inFrontOf_cons_self, usedSince_append_self, List.toFinset_nil]
    · rw [inFrontOf_cons_of_ne same, inFrontOf_filter same, usedSince_append_of_ne same, ← ih]
      ext name
      by_cases used : name = other
      · simp [used]
      · simp [used]

theorem card_usedSince (key : String) (uses : List String) :
    (usedSince key uses).card = (inFrontOf key (latestFirst uses)).length := by
  rw [← toFinset_inFrontOf_latestFirst, List.toFinset_card_of_nodup]
  exact (nodup_latestFirst uses).sublist (List.takeWhile_sublist _)

/-! ## Sublists of the order -/

/-- In a sublist there are no more keys in front of a key than in the whole list. -/
theorem inFrontOf_sublist {key : String} {some all : List String} (sublist : some.Sublist all)
    (nodup : all.Nodup) (member : key ∈ some) :
    (inFrontOf key some).Sublist (inFrontOf key all) := by
  induction sublist with
  | slnil => simp at member
  | cons head sublist ih =>
    rw [List.nodup_cons] at nodup
    -- The key stands once, in the sublist, so the one that is left out is another one.
    have differs : head ≠ key := by
      rintro rfl
      exact nodup.1 (sublist.subset member)
    rw [inFrontOf_cons_of_ne differs]
    exact (ih nodup.2 member).cons head
  | cons_cons head sublist ih =>
    rw [List.nodup_cons] at nodup
    by_cases same : head = key
    · subst same
      rw [inFrontOf_cons_self]
      exact List.nil_sublist _
    · rw [inFrontOf_cons_of_ne same, inFrontOf_cons_of_ne same]
      exact (ih nodup.2 ((List.mem_cons.1 member).resolve_left (Ne.symm same))).cons_cons head

/-- A key with fewer than `count` keys in front of it is among the first `count`. -/
theorem mem_take_of_length_inFrontOf_lt {key : String} {keys : List String} {count : Nat}
    (member : key ∈ keys) (few : (inFrontOf key keys).length < count) : key ∈ keys.take count := by
  induction keys generalizing count with
  | nil => simp at member
  | cons head rest ih =>
    obtain ⟨count, rfl⟩ : ∃ previous, count = previous + 1 := ⟨count - 1, by omega⟩
    rw [List.take_succ_cons, List.mem_cons]
    by_cases same : head = key
    · exact Or.inl same.symm
    · rw [inFrontOf_cons_of_ne same, List.length_cons] at few
      exact Or.inr (ih ((List.mem_cons.1 member).resolve_left (Ne.symm same)) (by omega))

/-- A key behind whose last use fewer than `count` other keys were used is among the first `count`
keys of every list that holds it and keeps the order of last uses. -/
theorem mem_take_of_sublist_latestFirst {key : String} {keys uses : List String} {count : Nat}
    (sublist : keys.Sublist (latestFirst uses)) (member : key ∈ keys)
    (few : (usedSince key uses).card < count) : key ∈ keys.take count := by
  have shorter := (inFrontOf_sublist sublist (nodup_latestFirst uses) member).length_le
  rw [card_usedSince] at few
  exact mem_take_of_length_inFrontOf_lt member (Nat.lt_of_le_of_lt shorter few)

end CompletionCache.Recency
