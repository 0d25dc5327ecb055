/-!
# Tables ordered by use

A `Recency` table lists values under keys, the one used last in front. Putting a value in or
touching it moves it to the front; the table is cut at its far end.
-/

set_option autoImplicit false

namespace CompletionCache

/-- Values under keys, the one used last in front. -/
structure Recency (α : Type) where
  items : List (String × α)
  deriving DecidableEq

namespace Recency

variable {α : Type}

/-- The table without values. -/
def empty : Recency α := ⟨[]⟩

/-- How many values the table holds. -/
def size (table : Recency α) : Nat := table.items.length

/-- The keys, the one used last in front. -/
def keys (table : Recency α) : List String := table.items.map (·.1)

/-- The value under a key. Looking does not count as use. -/
def find? (table : Recency α) (key : String) : Option α := table.items.lookup key

/-- The table without a key. -/
def erase (table : Recency α) (key : String) : Recency α :=
  ⟨table.items.filter fun item => item.1 != key⟩

/-- The table with a value under a key, in front. -/
def push (table : Recency α) (key : String) (value : α) : Recency α :=
  ⟨(key, value) :: (table.erase key).items⟩

/-- The table with a key moved to the front. -/
def touch (table : Recency α) (key : String) : Recency α :=
  match table.find? key with
  | some value => table.push key value
  | none => table

/-- The `count` values used last. -/
def keepLatest (table : Recency α) (count : Nat) : Recency α := ⟨table.items.take count⟩

/-- The values that satisfy a condition, in their order. -/
def retain (table : Recency α) (keep : α → Bool) : Recency α :=
  ⟨table.items.filter fun item => keep item.2⟩

/-- How many values satisfy a condition. -/
def countWhere (table : Recency α) (holds : α → Bool) : Nat :=
  table.items.countP fun item => holds item.2

/-! ## What can be found -/

@[simp]
theorem find?_empty (key : String) : (empty : Recency α).find? key = none := rfl

/-- Erasing takes one key away and leaves all others. -/
theorem find?_erase (table : Recency α) (key other : String) :
    (table.erase key).find? other = if other = key then none else table.find? other := by
  obtain ⟨items⟩ := table
  simp only [find?, erase]
  induction items with
  | nil => simp
  | cons item rest ih =>
    obtain ⟨name, value⟩ := item
    rw [List.filter_cons]
    by_cases hname : name = key
    · simp only [hname, bne_self_eq_false, Bool.false_eq_true, if_false, ih]
      by_cases hother : other = key
      · simp [hother]
      · simp [hother, List.lookup_cons, beq_eq_false_iff_ne.2 hother]
    · rw [if_pos (bne_iff_ne.2 hname), List.lookup_cons, List.lookup_cons, ih]
      by_cases hother : other = name
      · simp [hother, hname]
      · simp [beq_eq_false_iff_ne.2 hother]

/-- A key finds the value that was put under it last. -/
theorem find?_push (table : Recency α) (key other : String) (value : α) :
    (table.push key value).find? other =
      if other = key then some value else table.find? other := by
  have tail := find?_erase table key other
  simp only [find?, push, List.lookup_cons] at tail ⊢
  by_cases hother : other = key
  · simp [hother]
  · simp [beq_eq_false_iff_ne.2 hother, tail, hother]

/-- Touching a key changes its place and nothing that can be found. -/
@[simp]
theorem find?_touch (table : Recency α) (key other : String) :
    (table.touch key).find? other = table.find? other := by
  unfold touch
  split
  · next value found =>
    rw [find?_push]
    split
    · next same => rw [same, found]
    · rfl
  · rfl

end Recency

end CompletionCache
