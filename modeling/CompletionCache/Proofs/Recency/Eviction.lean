import CompletionCache.Proofs.Recency.Order

/-!
# Making room in a table

Room is made in rounds. Each of them takes away the value that was used longest ago, and they end
when the table is below its capacity or empty; what they come to is the front of the table
(`makesRoom_keepLatest`). When a key is put into a table that was not too large, at most one other key has
to go, and that is the last one (`keys_keepLatest_erase`). In a table that keeps the order of last
uses, the last key is the one whose last use came before all others
(`LastUsedBefore.of_getLast?`).
-/

set_option autoImplicit false

namespace CompletionCache.Recency

variable {α : Type}

/-! ## Sizes and values -/

@[simp]
theorem length_keys (table : Recency α) : table.keys.length = table.size := List.length_map _

theorem items_erase_sublist (table : Recency α) (key : String) :
    (table.erase key).items.Sublist table.items :=
  List.filter_sublist

theorem items_retain_sublist (table : Recency α) (keep : α → Bool) :
    (table.retain keep).items.Sublist table.items :=
  List.filter_sublist

theorem items_keepLatest_sublist (table : Recency α) (count : Nat) :
    (table.keepLatest count).items.Sublist table.items :=
  List.take_sublist _ _

/-- What is found stands in the table. -/
theorem mem_items_of_find? {table : Recency α} {key : String} {value : α}
    (found : table.find? key = some value) : (key, value) ∈ table.items := by
  rw [find?, List.lookup_eq_some_iff] at found
  obtain ⟨front, back, items, -⟩ := found
  rw [items]
  exact List.mem_append_right _ List.mem_cons_self

/-- A table that is touched holds what it held. -/
theorem items_touch_subset (table : Recency α) (key : String) :
    (table.touch key).items ⊆ table.items := by
  unfold touch
  split
  · next value found =>
    intro item mem
    rcases List.mem_cons.1 mem with rfl | behind
    · exact mem_items_of_find? found
    · exact (table.items_erase_sublist key).subset behind
  · exact List.Subset.refl _

theorem size_touch_le (table : Recency α) (key : String) : (table.touch key).size ≤ table.size := by
  rw [← length_keys, ← length_keys, keys_touch]
  split
  · next held =>
    -- The key leaves its old place when it moves to the front.
    have fewer : (table.keys.filter (· != key)).length < table.keys.length :=
      List.length_filter_lt_length_iff_exists.2 ⟨key, held, by simp⟩
    rw [List.length_cons]
    exact fewer
  · exact Nat.le_refl _

/-! ## Rounds -/

/-- The table without the value that was used longest ago, if it has any. -/
def dropOldest? (table : Recency α) : Option (Recency α) :=
  table.items.getLast?.map fun _ => ⟨table.items.dropLast⟩

/-- A round of making room under a capacity. There is none without a capacity, when the table is below
it, or when nothing is left. -/
def roomRound (capacity : Option Nat) (table : Recency α) : Option (Recency α) :=
  match capacity with
  | none => none
  | some capacity => if capacity ≤ table.size then table.dropOldest? else none

/-- Round after round, until there is no further one, a table comes to another one. -/
inductive MakesRoom (capacity : Option Nat) : Recency α → Recency α → Prop where
  | done {table : Recency α} (last : roomRound capacity table = none) :
      MakesRoom capacity table table
  | round {table next final : Recency α} (one : roomRound capacity table = some next)
      (rest : MakesRoom capacity next final) : MakesRoom capacity table final

/-- The rounds end, and they leave what was used last. -/
theorem makesRoom_keepLatest (capacity : Nat) (table : Recency α) :
    MakesRoom (some capacity) table (table.keepLatest (capacity - 1)) := by
  obtain ⟨items⟩ := table
  induction items using List.reverseRecOn with
  | nil =>
    have last : roomRound (some capacity) (⟨[]⟩ : Recency α) = none := by
      simp [roomRound, dropOldest?]
    have whole : (⟨[]⟩ : Recency α).keepLatest (capacity - 1) = ⟨[]⟩ := by simp [keepLatest]
    rw [whole]
    exact .done last
  | append_singleton items oldest ih =>
    by_cases full : capacity ≤ items.length + 1
    · -- The oldest value leaves, and it was not among those that are kept.
      have one : roomRound (some capacity) (⟨items ++ [oldest]⟩ : Recency α) = some ⟨items⟩ := by
        simp [roomRound, dropOldest?, size, full]
      have same : (⟨items ++ [oldest]⟩ : Recency α).keepLatest (capacity - 1) =
          (⟨items⟩ : Recency α).keepLatest (capacity - 1) := by
        simp only [keepLatest]
        rw [List.take_append_of_le_length (by omega)]
      rw [same]
      exact .round one ih
    · have last : roomRound (some capacity) (⟨items ++ [oldest]⟩ : Recency α) = none := by
        simp [roomRound, size, full]
      have whole : (⟨items ++ [oldest]⟩ : Recency α).keepLatest (capacity - 1) =
          ⟨items ++ [oldest]⟩ := by
        simp only [keepLatest]
        rw [List.take_of_length_le (by simp; omega)]
      rw [whole]
      exact .done last

/-! ## Who has to go -/

/-- The key that has to go when another one is put into a table with a capacity: the one used longest
ago, if the table is full and does not hold the key that is put in. -/
def leaving? (table : Recency α) (capacity : Nat) (key : String) : Option String :=
  if key ∉ table.keys ∧ table.size = capacity then table.keys.getLast? else none

theorem leaving?_eq_some {table : Recency α} {capacity : Nat} {key victim : String}
    (leaves : table.leaving? capacity key = some victim) :
    key ∉ table.keys ∧ table.size = capacity ∧ table.keys.getLast? = some victim := by
  rw [leaving?] at leaves
  split at leaves
  · next full => exact ⟨full.1, full.2, leaves⟩
  · cases leaves

theorem leaving?_isSome_iff {table : Recency α} {capacity : Nat} (positive : 0 < capacity)
    (key : String) :
    (table.leaving? capacity key).isSome = true ↔ key ∉ table.keys ∧ table.size = capacity := by
  rw [leaving?]
  split
  · next full =>
    have filled : table.keys ≠ [] := by
      rw [← List.length_pos_iff, length_keys, full.2]
      exact positive
    rw [List.getLast?_eq_some_getLast filled]
    exact iff_of_true rfl full
  · next room => simpa using room

theorem size_erase_of_mem {table : Recency α} (nodup : table.keys.Nodup) {key : String}
    (held : key ∈ table.keys) : (table.erase key).size = table.size - 1 := by
  rw [← length_keys, keys_erase, ← List.Nodup.erase_eq_filter nodup, List.length_erase_of_mem held,
    length_keys]

/-- Without its last one, a list of keys that stand once is the list of the others. -/
theorem dropLast_eq_filter {keys : List String} (nodup : keys.Nodup) :
    keys.dropLast = keys.filter fun other => decide (keys.getLast? ≠ some other) := by
  induction keys using List.reverseRecOn with
  | nil => rfl
  | append_singleton keys last _ =>
    rw [List.nodup_append'] at nodup
    have others : keys.filter (fun other => decide (some last ≠ some other)) = keys := by
      rw [List.filter_eq_self]
      intro other mem
      rw [decide_eq_true_eq, ne_eq, Option.some.injEq]
      rintro rfl
      exact nodup.2.2 mem List.mem_cons_self
    rw [List.dropLast_concat, List.getLast?_concat, List.filter_append, others]
    simp

/-- Room for a key in a table that is not too large: at most one other key has to go. -/
theorem keys_keepLatest_erase {table : Recency α} (nodup : table.keys.Nodup) {capacity : Nat}
    (fits : table.size ≤ capacity) (key : String) :
    ((table.erase key).keepLatest (capacity - 1)).keys =
      (table.erase key).keys.filter fun other =>
        decide (table.leaving? capacity key ≠ some other) := by
  rw [keys_keepLatest]
  -- When there is room, nobody has to go.
  have all : (table.erase key).size ≤ capacity - 1 → table.leaving? capacity key = none →
      (table.erase key).keys.take (capacity - 1) = (table.erase key).keys.filter fun other =>
        decide (table.leaving? capacity key ≠ some other) := by
    intro room nobody
    rw [List.take_of_length_le (by rwa [length_keys]), nobody]
    simp
  by_cases held : key ∈ table.keys
  · apply all
    · rw [size_erase_of_mem nodup held]
      omega
    · exact if_neg fun full => full.1 held
  · have same : (table.erase key).keys = table.keys := by
      rw [keys_erase, List.filter_eq_self]
      intro other mem
      rw [bne_iff_ne]
      rintro rfl
      exact held mem
    by_cases full : table.size = capacity
    · have oldest : table.leaving? capacity key = table.keys.getLast? := if_pos ⟨held, full⟩
      rw [same, oldest, ← full, ← length_keys, ← List.dropLast_eq_take]
      exact dropLast_eq_filter nodup
    · apply all
      · rw [← length_keys, same, length_keys]
        omega
      · exact if_neg fun both => full both.2

/-! ## Last uses -/

/-- The last use of a key came before the last use of another one. -/
def LastUsedBefore (uses : List String) (key other : String) : Prop :=
  ∃ earlier later, uses = earlier ++ key :: later ∧ key ∉ later ∧ other ∈ later

theorem mem_latestFirst (key : String) (uses : List String) :
    key ∈ latestFirst uses ↔ key ∈ uses := by
  induction uses using List.reverseRecOn with
  | nil => rfl
  | append_singleton uses other ih =>
    rw [latestFirst_append_singleton, List.mem_cons, List.mem_filter, ih, List.mem_append,
      List.mem_singleton, bne_iff_ne]
    by_cases same : key = other <;> simp [same]

/-- Behind the last use of a key there are the uses of all keys that were used since. -/
theorem exists_lastUse {key : String} {uses : List String} (used : key ∈ uses) :
    ∃ earlier later, uses = earlier ++ key :: later ∧ key ∉ later ∧
      ∀ other ∈ usedSince key uses, other ∈ later := by
  induction uses using List.reverseRecOn with
  | nil => simp at used
  | append_singleton uses last ih =>
    by_cases same : last = key
    · subst same
      exact ⟨uses, [], rfl, List.not_mem_nil, by simp⟩
    · have before : key ∈ uses := by simpa [Ne.symm same] using used
      obtain ⟨earlier, later, split, absent, since⟩ := ih before
      refine ⟨earlier, later ++ [last], by simp [split], by simp [absent, Ne.symm same], ?_⟩
      intro other mem
      rw [usedSince_append_of_ne same, Finset.mem_insert] at mem
      rcases mem with rfl | mem
      · simp
      · simp [since other mem]

/-- In keys that keep the order of last uses, the last one was used before all others. -/
theorem LastUsedBefore.of_getLast? {keys uses : List String} {victim other : String}
    (sublist : keys.Sublist (latestFirst uses)) (last : keys.getLast? = some victim)
    (member : other ∈ keys) (differs : other ≠ victim) : LastUsedBefore uses victim other := by
  obtain ⟨front, rfl⟩ := List.getLast?_eq_some_iff.1 last
  have nodup := (nodup_latestFirst uses).sublist sublist
  have there : victim ∈ front ++ [victim] := List.mem_append_right _ List.mem_cons_self
  have inFront : inFrontOf victim (front ++ [victim]) = front := by
    rw [List.nodup_append'] at nodup
    have others : ∀ name ∈ front, (name != victim) = true := by
      intro name mem
      rw [bne_iff_ne]
      rintro rfl
      exact nodup.2.2 mem List.mem_cons_self
    rw [inFrontOf, List.takeWhile_append_of_pos others]
    simp
  have used : victim ∈ uses := (mem_latestFirst victim uses).1 (sublist.subset there)
  have since : other ∈ usedSince victim uses := by
    have ahead := (inFrontOf_sublist sublist (nodup_latestFirst uses) there).subset
    rw [inFront] at ahead
    have inside : other ∈ front := by simpa [differs] using member
    rw [← toFinset_inFrontOf_latestFirst, List.mem_toFinset]
    exact ahead inside
  obtain ⟨earlier, later, split, absent, behind⟩ := exists_lastUse used
  exact ⟨earlier, later, split, absent, behind other since⟩

end CompletionCache.Recency
