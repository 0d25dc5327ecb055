import CompletionCache.Recency
import Mathlib.Data.List.Basic

/-!
# Keys of tables ordered by use

What each operation on a `Recency` table does to the list of its keys, and what can be found after
values have left it. No operation lets a key stand twice (`nodup_keys_push`), and in a table without
repeated keys a value is found after `retain` exactly if it was found before and is kept
(`find?_retain`).
-/

set_option autoImplicit false

namespace CompletionCache.Recency

variable {α : Type}

@[simp]
theorem keys_empty : (empty : Recency α).keys = [] := rfl

@[simp]
theorem keys_erase (table : Recency α) (key : String) :
    (table.erase key).keys = table.keys.filter (· != key) := by
  simp only [keys, erase, List.filter_map]
  rfl

@[simp]
theorem keys_push (table : Recency α) (key : String) (value : α) :
    (table.push key value).keys = key :: table.keys.filter (· != key) := by
  have tail := keys_erase table key
  simp only [keys, push, List.map_cons] at tail ⊢
  rw [tail]

@[simp]
theorem keys_keepLatest (table : Recency α) (count : Nat) :
    (table.keepLatest count).keys = table.keys.take count := by
  simp only [keys, keepLatest, List.map_take]

theorem keys_retain_sublist (table : Recency α) (keep : α → Bool) :
    (table.retain keep).keys.Sublist table.keys :=
  List.filter_sublist.map _

/-- A key is found exactly if it is one of the keys. -/
theorem find?_isSome_iff (table : Recency α) (key : String) :
    (table.find? key).isSome = true ↔ key ∈ table.keys := by
  obtain ⟨items⟩ := table
  simp only [find?, keys]
  induction items with
  | nil => simp
  | cons item rest ih =>
    rw [List.lookup_cons, List.map_cons, List.mem_cons]
    by_cases same : key = item.1
    · simp [same]
    · rw [beq_eq_false_iff_ne.2 same, or_iff_right same]
      exact ih

theorem find?_eq_none_iff (table : Recency α) (key : String) :
    table.find? key = none ↔ key ∉ table.keys := by
  rw [← find?_isSome_iff, Option.not_isSome_iff_eq_none]

/-- Touching a key that is there moves it to the front, and else changes nothing. -/
theorem keys_touch (table : Recency α) (key : String) :
    (table.touch key).keys =
      if key ∈ table.keys then key :: table.keys.filter (· != key) else table.keys := by
  unfold touch
  cases found : table.find? key with
  | none => rw [if_neg ((find?_eq_none_iff table key).1 found)]
  | some value =>
    have present : key ∈ table.keys := by
      rw [← find?_isSome_iff, found]
      rfl
    rw [if_pos present, keys_push]

/-! ## Keys stand once -/

theorem nodup_keys_erase {table : Recency α} (nodup : table.keys.Nodup) (key : String) :
    (table.erase key).keys.Nodup := by
  rw [keys_erase]
  exact nodup.filter _

theorem nodup_keys_push {table : Recency α} (nodup : table.keys.Nodup) (key : String) (value : α) :
    (table.push key value).keys.Nodup := by
  rw [keys_push, List.nodup_cons]
  exact ⟨by simp, nodup.filter _⟩

theorem nodup_keys_touch {table : Recency α} (nodup : table.keys.Nodup) (key : String) :
    (table.touch key).keys.Nodup := by
  unfold touch
  split
  · exact nodup_keys_push nodup key _
  · exact nodup

theorem nodup_keys_keepLatest {table : Recency α} (nodup : table.keys.Nodup) (count : Nat) :
    (table.keepLatest count).keys.Nodup := by
  rw [keys_keepLatest]
  exact nodup.sublist (List.take_sublist _ _)

theorem nodup_keys_retain {table : Recency α} (nodup : table.keys.Nodup) (keep : α → Bool) :
    (table.retain keep).keys.Nodup :=
  nodup.sublist (keys_retain_sublist table keep)

/-! ## What is found after values have left -/

/-- Without repeated keys, the values that are retained are found where they were. -/
theorem find?_retain {table : Recency α} (nodup : table.keys.Nodup) (keep : α → Bool)
    (key : String) : (table.retain keep).find? key = (table.find? key).filter keep := by
  obtain ⟨items⟩ := table
  simp only [find?, retain, keys] at nodup ⊢
  induction items with
  | nil => rfl
  | cons item rest ih =>
    obtain ⟨name, value⟩ := item
    rw [List.map_cons, List.nodup_cons] at nodup
    obtain ⟨fresh, nodup⟩ := nodup
    rw [List.filter_cons, List.lookup_cons]
    by_cases same : key = name
    · subst same
      -- When this value is dropped no other one comes to light, for the key stands once.
      have absent : rest.lookup key = none := (find?_eq_none_iff ⟨rest⟩ key).2 fresh
      rw [beq_self_eq_true]
      split
      · next kept => simp [Option.filter, kept]
      · next dropped =>
        rw [ih nodup, absent]
        simp [Option.filter, dropped]
    · rw [beq_eq_false_iff_ne.2 same]
      split
      · rw [List.lookup_cons, beq_eq_false_iff_ne.2 same]
        exact ih nodup
      · exact ih nodup

/-- Cutting a table keeps the values of the keys in front. -/
theorem find?_keepLatest_of_mem {table : Recency α} {count : Nat} {key : String}
    (front : key ∈ table.keys.take count) :
    (table.keepLatest count).find? key = table.find? key := by
  obtain ⟨items⟩ := table
  simp only [find?, keepLatest, keys] at front ⊢
  induction items generalizing count with
  | nil => simp
  | cons item rest ih =>
    cases count with
    | zero => simp at front
    | succ count =>
      rw [List.take_succ_cons, List.lookup_cons, List.lookup_cons]
      rw [List.map_cons, List.take_succ_cons, List.mem_cons] at front
      by_cases same : key = item.1
      · simp [same]
      · rw [beq_eq_false_iff_ne.2 same]
        exact ih (front.resolve_left same)

/-- What is found after a table was cut was there before. -/
theorem find?_of_find?_keepLatest {table : Recency α} {count : Nat} {key : String} {value : α}
    (found : (table.keepLatest count).find? key = some value) : table.find? key = some value := by
  have present : key ∈ (table.keepLatest count).keys := by
    rw [← find?_isSome_iff, found]
    rfl
  rw [keys_keepLatest] at present
  rw [← find?_keepLatest_of_mem present, found]

end CompletionCache.Recency
