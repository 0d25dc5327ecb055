import CompletionCache.Proofs.Config.Names
import CompletionCache.Proofs.Store.Pattern
import CompletionCache.Proofs.Store.Remembers

/-!
# What a store that keeps its word finds

One lookup equation for each thing that happens to a store: what is put is found under its key until
it expires, a deletion takes away the keys that it names, and nothing else changes. A key that has
expired stays so (`find?_showing_of_le`). The keys under a prefix are listed in order
(`mem_under`, `ascending_under`), and those are the ones that a removal of what is listed takes away
(`find?_deleteAll_under`).
-/

set_option autoImplicit false

namespace CompletionCache

/-- What has expired stays so. -/
theorem Stored.isLiveAt_of_le {stored : Stored} {earlier later : Instant}
    (order : earlier ≤ later) (live : stored.isLiveAt later = true) :
    stored.isLiveAt earlier = true := by
  rw [isLiveAt, Option.all_eq_true] at live ⊢
  intro expiry given
  have ahead := of_decide_eq_true (live expiry given)
  exact decide_eq_true (Int.lt_of_le_of_lt order ahead)

/-- The keys that begin with a text. -/
def BeginsWith (front key : String) : Prop := front.toList <+: key.toList

instance (front key : String) : Decidable (BeginsWith front key) :=
  inferInstanceAs (Decidable (_ <+: _))

theorem beginsWith_append (front key : String) : BeginsWith front (front ++ key) := by
  rw [BeginsWith, String.toList_append]
  exact List.prefix_append _ _

/-- Of two texts with which one key begins, one begins with the other. -/
theorem BeginsWith.comparable {front other key : String} (first : BeginsWith front key)
    (second : BeginsWith other key) : BeginsWith front other ∨ BeginsWith other front :=
  List.prefix_or_prefix_of_prefix first second

namespace Keyspace

/-- The store when its clock shows an instant. -/
def showing (space : Keyspace) (now : Instant) : Keyspace := { space with now := now }

@[simp]
theorem now_showing (space : Keyspace) (now : Instant) : (space.showing now).now = now := rfl

theorem showing_of_now {space : Keyspace} {now : Instant} (same : space.now = now) :
    space.showing now = space := by
  subst same
  rfl

/-! ## Lookups -/

theorem find?_eq_some_iff (space : Keyspace) (key : String) (stored : Stored) :
    space.find? key = some stored ↔
      space.items.lookup key = some stored ∧ stored.isLiveAt space.now = true := by
  rw [find?, Option.filter_eq_some_iff]

theorem contains_eq_true_iff (space : Keyspace) (key : String) :
    space.contains key = true ↔ ∃ stored, space.find? key = some stored :=
  Option.isSome_iff_exists

theorem lookup_filter_ne (items : List (String × Stored)) (key other : String) :
    (items.filter fun item => item.1 != key).lookup other =
      if other = key then none else items.lookup other := by
  induction items with
  | nil => simp
  | cons item items ih =>
    obtain ⟨name, stored⟩ := item
    by_cases same : name = key
    · subst same
      rw [List.filter_cons_of_neg (by simp), ih]
      split_ifs with found
      · rfl
      · rw [List.lookup_cons, beq_false_of_ne found]
    · rw [List.filter_cons_of_pos (by simpa using same), List.lookup_cons, List.lookup_cons, ih]
      by_cases found : other = name
      · subst found
        simp [same]
      · rw [beq_false_of_ne found]

theorem lookup_erase (space : Keyspace) (key other : String) :
    (space.erase key).items.lookup other = if other = key then none else space.items.lookup other :=
  lookup_filter_ne _ _ _

theorem lookup_put (space : Keyspace) (key other : String) (stored : Stored) :
    (space.put key stored).items.lookup other =
      if other = key then some stored else space.items.lookup other := by
  rw [put, List.lookup_cons]
  by_cases found : other = key
  · rw [if_pos found, found, beq_self_eq_true]
  · rw [if_neg found, beq_false_of_ne found, lookup_erase, if_neg found]

@[simp]
theorem now_deleteAll (space : Keyspace) (keys : List String) :
    (space.deleteAll keys).2.now = space.now := by
  induction keys generalizing space with
  | nil => rfl
  | cons key keys ih => exact ih (space.erase key)

theorem lookup_deleteAll (space : Keyspace) (keys : List String) (other : String) :
    (space.deleteAll keys).2.items.lookup other =
      if other ∈ keys then none else space.items.lookup other := by
  induction keys generalizing space with
  | nil => simp [deleteAll]
  | cons key keys ih =>
    rw [deleteAll]
    dsimp only
    rw [ih, lookup_erase]
    by_cases first : other = key
    · simp [first]
    · simp [first]

theorem find?_erase (space : Keyspace) (key other : String) :
    (space.erase key).find? other = if other = key then none else space.find? other := by
  rw [find?, lookup_erase, find?]
  split_ifs <;> rfl

theorem find?_put (space : Keyspace) (key other : String) (stored : Stored) :
    (space.put key stored).find? other =
      if other = key then (some stored).filter fun stored => stored.isLiveAt space.now
      else space.find? other := by
  rw [find?, lookup_put, find?]
  split_ifs <;> rfl

theorem find?_deleteAll (space : Keyspace) (keys : List String) (other : String) :
    (space.deleteAll keys).2.find? other = if other ∈ keys then none else space.find? other := by
  rw [find?, lookup_deleteAll, now_deleteAll, find?]
  split_ifs <;> rfl

theorem deleteAll_append (space : Keyspace) (keys others : List String) :
    (space.deleteAll (keys ++ others)).2 = ((space.deleteAll keys).2.deleteAll others).2 := by
  induction keys generalizing space with
  | nil => rfl
  | cons key keys ih => exact ih (space.erase key)

/-- What is found later was found before, if nothing happened but that time went by. -/
theorem find?_showing_of_le {space : Keyspace} {earlier later : Instant} (order : earlier ≤ later)
    {key : String} (absent : (space.showing earlier).find? key = none) :
    (space.showing later).find? key = none := by
  rw [Option.eq_none_iff_forall_ne_some] at absent ⊢
  intro stored found
  obtain ⟨held, live⟩ := (find?_eq_some_iff _ _ _).1 found
  exact absent stored ((find?_eq_some_iff _ _ _).2 ⟨held, Stored.isLiveAt_of_le order live⟩)

/-! ## Keys -/

theorem mem_keys {space : Keyspace} {key : String} :
    key ∈ space.keys ↔ space.contains key = true := by
  show key ∈ NameSet.ofList _ ↔ _
  rw [NameSet.mem_ofList, List.mem_filter, and_iff_right_iff_imp]
  intro there
  obtain ⟨stored, found⟩ := (contains_eq_true_iff space key).1 there
  obtain ⟨held, mem, -⟩ := holds_of_find? found
  exact List.mem_map.2 ⟨_, mem, rfl⟩

/-- The keys that are there and begin with a text, sorted. -/
def under (space : Keyspace) (front : String) : List String :=
  space.keys.filter (Glob.isMatch (Glob.startingWith front))

theorem mem_under {space : Keyspace} {front key : String} :
    key ∈ space.under front ↔ space.contains key = true ∧ front.toList <+: key.toList := by
  rw [under, List.mem_filter, mem_keys, Glob.isMatch_startingWith_iff]

theorem ascending_under (space : Keyspace) (front : String) :
    (space.under front).Pairwise (· < ·) :=
  (NameSet.ofList _).ascending.filter _

/-- Without the keys under a prefix, those are gone for good and all others are as they were. -/
theorem find?_deleteAll_under (space : Keyspace) (front key : String) {later : Instant}
    (order : space.now ≤ later) :
    ((space.deleteAll (space.under front)).2.showing later).find? key =
      if BeginsWith front key then none else (space.showing later).find? key := by
  split_ifs with begins
  · -- What is not found now is not found later either: nothing comes back by itself.
    apply find?_showing_of_le order
    have clock : (space.deleteAll (space.under front)).2.showing space.now =
        (space.deleteAll (space.under front)).2 := showing_of_now (now_deleteAll _ _)
    rw [clock, find?_deleteAll]
    split_ifs with listed
    · rfl
    · exact Option.not_isSome_iff_eq_none.1 fun there => listed (mem_under.2 ⟨there, begins⟩)
  · have unlisted : key ∉ space.under front := fun listed => begins (mem_under.1 listed).2
    rw [find?, showing, lookup_deleteAll, if_neg unlisted]
    rfl

end Keyspace

end CompletionCache
