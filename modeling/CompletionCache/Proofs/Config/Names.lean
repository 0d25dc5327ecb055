import CompletionCache.Config.Basic
import Mathlib.Data.List.Induction
import Mathlib.Data.String.Basic

/-!
# The names of a set

The names that were put together to a set are exactly those of the list (`NameSet.mem_ofList`). A set
is determined by its members, so its names are put together to itself (`NameSet.ofList_names`).
-/

set_option autoImplicit false

namespace CompletionCache

/-- A list in ascending order is determined by its members. -/
theorem eq_of_mem_iff {names names' : List String} (ascending : names.Pairwise (· < ·))
    (ascending' : names'.Pairwise (· < ·)) (same : ∀ name, name ∈ names ↔ name ∈ names') :
    names = names' := by
  have perm : names.Perm names' := (List.perm_ext_iff_of_nodup (ascending.imp ne_of_lt)
    (ascending'.imp ne_of_lt)).2 same
  exact perm.eq_of_pairwise (fun a b _ _ ab ba => absurd (lt_trans ab ba) (lt_irrefl _))
    ascending ascending'

namespace NameSet

variable {set : NameSet} {names : List String} {name other : String}

@[simp]
theorem mem_insert : other ∈ set.insert name ↔ other = name ∨ other ∈ set := mem_insertName

@[simp]
theorem not_mem_empty : name ∉ empty := List.not_mem_nil

@[simp]
theorem mem_insertAll : name ∈ set.insertAll names ↔ name ∈ names ∨ name ∈ set := by
  rw [insertAll]
  induction names generalizing set with
  | nil => simp
  | cons first names ih => rw [List.foldl_cons, ih, mem_insert, List.mem_cons, or_left_comm, or_assoc]

theorem mem_ofList : name ∈ ofList names ↔ name ∈ names := by
  rw [ofList, mem_insertAll, or_iff_left not_mem_empty]

/-- The names of a set are put together to the set. -/
theorem ofList_names (set : NameSet) : ofList set.names = set :=
  NameSet.ext (eq_of_mem_iff (ofList set.names).ascending set.ascending fun _ => mem_ofList)

end NameSet

/-- A config that keeps one more model out keeps out this one and those that it kept out before. -/
theorem Config.isExcluded_exclude (config : Config) (model other : String) :
    (config.exclude model).isExcluded other = true ↔
      other = model ∨ config.isExcluded other = true := by
  rw [isExcluded, decide_eq_true_eq, exclude, NameSet.mem_insert, isExcluded, decide_eq_true_eq]

end CompletionCache
