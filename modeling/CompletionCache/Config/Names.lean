/-!
# Sets of names

A `NameSet` is a list of names in ascending order, which holds each name once. Inserting a name keeps
the order (`ascending_insertName`), so the names of any list can be put together to a set
(`NameSet.ofList`).
-/

set_option autoImplicit false

namespace CompletionCache

/-- Puts a name into a sorted list of names, where it stands once. -/
def insertName (name : String) : List String → List String
  | [] => [name]
  | other :: rest =>
    if name = other then other :: rest
    else if name < other then name :: other :: rest
    else other :: insertName name rest

/-! ## Order -/

theorem mem_insertName {name other : String} {names : List String} :
    other ∈ insertName name names ↔ other = name ∨ other ∈ names := by
  induction names with
  | nil => simp [insertName]
  | cons first names ih =>
    rw [insertName]
    split
    · next same => simp [same]
    split
    · simp
    · rw [List.mem_cons, ih, List.mem_cons, or_left_comm]

theorem ascending_insertName {names : List String} (ascending : names.Pairwise (· < ·))
    (name : String) : (insertName name names).Pairwise (· < ·) := by
  induction names with
  | nil => exact List.pairwise_singleton _ _
  | cons first names ih =>
    obtain ⟨behind, later⟩ := List.pairwise_cons.1 ascending
    rw [insertName]
    split
    · exact ascending
    next differs =>
    split
    · next before =>
      refine List.pairwise_cons.2 ⟨?_, ascending⟩
      intro other mem
      rcases List.mem_cons.1 mem with rfl | mem
      · exact before
      · exact String.lt_trans before (behind other mem)
    · next after =>
      refine List.pairwise_cons.2 ⟨?_, ih later⟩
      intro other mem
      rcases mem_insertName.1 mem with rfl | mem
      · exact Std.lt_of_le_of_ne (String.not_lt.1 after) (Ne.symm differs)
      · exact behind other mem

/-! ## Sets -/

/-- Names in ascending order, each once. -/
@[ext]
structure NameSet where
  names : List String
  ascending : names.Pairwise (· < ·)
  deriving DecidableEq

namespace NameSet

/-- The set without names. -/
def empty : NameSet := ⟨[], List.Pairwise.nil⟩

/-- The set with one more name. -/
def insert (set : NameSet) (name : String) : NameSet :=
  ⟨insertName name set.names, ascending_insertName set.ascending name⟩

/-- The set with the names in a list. -/
def insertAll (set : NameSet) (names : List String) : NameSet := names.foldl insert set

/-- The set of the names in a list. -/
def ofList (names : List String) : NameSet := empty.insertAll names

instance : Membership String NameSet := ⟨fun set name => name ∈ set.names⟩

instance (name : String) (set : NameSet) : Decidable (name ∈ set) :=
  inferInstanceAs (Decidable (name ∈ set.names))

end NameSet

end CompletionCache
