import CompletionCache.Proofs.Json.ReadBack
import Mathlib.Data.List.Induction
import Mathlib.Data.String.Basic

/-!
# Normal forms of documents

Members that stand in the order of their names, each name once, are determined by what they give for
every name (`eq_of_find?_eq`). `sortMembers` brings members into that order and keeps the last one of
each name (`find?_sortMembers`), so `normalize` gives every document the same form twice
(`normalize_normalize`). A well-formed document is printable and in its normal form; its parts are
well-formed as well.
-/

set_option autoImplicit false

namespace CompletionCache.Json

/-! ## Members by name -/

theorem find?_append (name : String) (front back : Members) :
    find? name (front ++ back) = (find? name front).or (find? name back) := by
  induction front with
  | nil => rfl
  | cons member front ih =>
    obtain ⟨other, value⟩ := member
    simp only [List.cons_append, find?]
    split_ifs
    · rfl
    · exact ih

theorem mem_of_find? {name : String} {members : Members} {value : Json}
    (found : find? name members = some value) : (name, value) ∈ members := by
  induction members with
  | nil => cases found
  | cons member members ih =>
    obtain ⟨other, kept⟩ := member
    rw [find?] at found
    split_ifs at found with same
    · cases found
      rw [same]
      exact List.mem_cons_self
    · exact List.mem_cons_of_mem _ (ih found)

theorem find?_eq_none_iff {name : String} {members : Members} :
    find? name members = none ↔ ∀ member ∈ members, member.1 ≠ name := by
  induction members with
  | nil => simp [find?]
  | cons member members ih =>
    obtain ⟨other, value⟩ := member
    rw [find?]
    split_ifs with same
    · simp [same]
    · simp [same, ih]

/-- Members in the order of their names, each name once. -/
def Ascending (members : Members) : Prop := members.Pairwise fun a b => a.1 < b.1

instance (members : Members) : Decidable (Ascending members) :=
  inferInstanceAs (Decidable (members.Pairwise _))

theorem nodup_names {members : Members} (ascending : Ascending members) :
    (members.map (·.1)).Nodup :=
  (List.pairwise_map.2 ascending).imp fun before => ne_of_lt before

/-- Under a name that stands once there is one value. -/
theorem find?_of_mem {members : Members} (nodup : (members.map (·.1)).Nodup) {name : String}
    {value : Json} (mem : (name, value) ∈ members) : find? name members = some value := by
  induction members with
  | nil => cases mem
  | cons member members ih =>
    obtain ⟨other, kept⟩ := member
    obtain ⟨fresh, nodup⟩ := List.nodup_cons.1 nodup
    rw [find?]
    rcases List.mem_cons.1 mem with first | later
    · cases first
      rw [if_pos rfl]
    · rw [if_neg, ih nodup later]
      rintro rfl
      exact fresh (List.mem_map_of_mem (f := (·.1)) later)

/-- Members in order are determined by what they give for every name. -/
theorem eq_of_find?_eq {members members' : Members} (ascending : Ascending members)
    (ascending' : Ascending members')
    (same : ∀ name, find? name members = find? name members') : members = members' := by
  -- The two lists have the same members, and there is one way to put them in order.
  have subset : ∀ {one other : Members}, Ascending other →
      (∀ name, find? name one = find? name other) → Ascending one →
        ∀ member ∈ one, member ∈ other := by
    intro one other _ same ascending member mem
    exact mem_of_find? ((same member.1) ▸ find?_of_mem (nodup_names ascending) mem)
  have perm : members.Perm members' := by
    refine (List.perm_ext_iff_of_nodup ?_ ?_).2 fun member =>
      ⟨subset ascending' same ascending member,
        subset ascending (fun name => (same name).symm) ascending' member⟩
    · exact ascending.imp fun before eq => absurd (eq ▸ before) (lt_irrefl _)
    · exact ascending'.imp fun before eq => absurd (eq ▸ before) (lt_irrefl _)
  exact perm.eq_of_pairwise (fun a b _ _ ab ba => absurd (lt_trans ab ba) (lt_irrefl _))
    ascending ascending'

/-! ## Sorting -/

theorem find?_insertMember (name other : String) (value : Json) (members : Members) :
    find? name (insertMember other value members) =
      if other = name then some value else find? name members := by
  induction members with
  | nil => rfl
  | cons member members ih =>
    obtain ⟨kept, keptValue⟩ := member
    by_cases same : other = kept
    · rw [insertMember, if_pos same, find?, find?, same]
      split_ifs <;> rfl
    · rw [insertMember, if_neg same]
      by_cases before : other < kept
      · rw [if_pos before, find?]
      · rw [if_neg before, find?, ih, find?]
        by_cases isKept : kept = name
        · rw [if_pos isKept, if_pos isKept, if_neg fun isOther => same (isOther.trans isKept.symm)]
        · rw [if_neg isKept, if_neg isKept]

theorem mem_insertMember {name : String} {value : Json} {members : Members} {member : String × Json}
    (mem : member ∈ insertMember name value members) :
    member = (name, value) ∨ member ∈ members := by
  induction members with
  | nil => exact .inl (List.mem_singleton.1 mem)
  | cons first members ih =>
    obtain ⟨kept, keptValue⟩ := first
    rw [insertMember] at mem
    split_ifs at mem
    · rcases List.mem_cons.1 mem with eq | mem
      · exact .inl eq
      · exact .inr (List.mem_cons_of_mem _ mem)
    · exact List.mem_cons.1 mem
    · rcases List.mem_cons.1 mem with eq | mem
      · exact .inr (eq ▸ List.mem_cons_self)
      · exact (ih mem).imp_right (List.mem_cons_of_mem _)

theorem ascending_insertMember {members : Members} (ascending : Ascending members) (name : String)
    (value : Json) : Ascending (insertMember name value members) := by
  induction members with
  | nil => exact List.pairwise_singleton _ _
  | cons member members ih =>
    obtain ⟨kept, keptValue⟩ := member
    obtain ⟨first, later⟩ := List.pairwise_cons.1 ascending
    rw [insertMember]
    split_ifs with same before
    · exact List.pairwise_cons.2 ⟨fun other mem => same ▸ first other mem, later⟩
    · refine List.pairwise_cons.2 ⟨?_, ascending⟩
      intro other mem
      rcases List.mem_cons.1 mem with rfl | mem
      · exact before
      · exact lt_trans before (first other mem)
    · refine List.pairwise_cons.2 ⟨?_, ih later⟩
      intro other mem
      rcases mem_insertMember mem with rfl | mem
      · exact lt_of_le_of_ne (not_lt.1 before) fun eq => same eq.symm
      · exact first other mem

theorem sortMembers_append_singleton (members : Members) (name : String) (value : Json) :
    sortMembers (members ++ [(name, value)]) = insertMember name value (sortMembers members) := by
  simp [sortMembers]

theorem ascending_sortMembers (members : Members) : Ascending (sortMembers members) := by
  induction members using List.reverseRecOn with
  | nil => exact List.Pairwise.nil
  | append_singleton members member ih =>
    rw [sortMembers_append_singleton]
    exact ascending_insertMember ih _ _

theorem mem_of_mem_sortMembers {members : Members} {member : String × Json}
    (mem : member ∈ sortMembers members) : member ∈ members := by
  induction members using List.reverseRecOn with
  | nil => exact mem
  | append_singleton members last ih =>
    rw [sortMembers_append_singleton] at mem
    rcases mem_insertMember mem with rfl | mem
    · simp
    · exact List.mem_append_left _ (ih mem)

/-- Of several members with one name the last one is kept. -/
theorem find?_sortMembers (name : String) (members : Members) :
    find? name (sortMembers members) = find? name members.reverse := by
  induction members using List.reverseRecOn with
  | nil => rfl
  | append_singleton members member ih =>
    rw [sortMembers_append_singleton, find?_insertMember, ih, List.reverse_append]
    rfl

/-- Without repeated names sorting changes no value. -/
theorem find?_sortMembers_of_nodup {members : Members} (nodup : (members.map (·.1)).Nodup)
    (name : String) : find? name (sortMembers members) = find? name members := by
  rw [find?_sortMembers]
  induction members with
  | nil => rfl
  | cons member members ih =>
    obtain ⟨other, value⟩ := member
    obtain ⟨fresh, nodup⟩ := List.nodup_cons.1 nodup
    rw [List.reverse_cons, find?_append, ih nodup, find?, find?]
    split_ifs with same
    · -- The name is in front, so it is in no other member.
      have none : find? name members = none := by
        rw [find?_eq_none_iff]
        intro member mem eq
        have inNames : member.1 ∈ members.map (·.1) := List.mem_map_of_mem mem
        rw [eq, ← same] at inNames
        exact fresh inNames
      rw [none, Option.none_or, find?, if_pos same]
    · rw [Option.or_none, find?, if_neg same]

/-- Members in order stay as they are. -/
theorem sortMembers_of_ascending {members : Members} (ascending : Ascending members) :
    sortMembers members = members :=
  eq_of_find?_eq (ascending_sortMembers members) ascending
    (find?_sortMembers_of_nodup (nodup_names ascending))

/-! ## Values -/

theorem normalizeItems_eq_map (items : List Json) : normalizeItems items = items.map normalize := by
  induction items with
  | nil => rfl
  | cons item items ih => rw [normalizeItems, ih, List.map_cons]

theorem normalizeMembers_eq_map (members : Members) :
    normalizeMembers members = members.map fun member => (member.1, member.2.normalize) := by
  induction members with
  | nil => rfl
  | cons member members ih => rw [normalizeMembers, ih, List.map_cons]

@[simp]
theorem names_normalizeMembers (members : Members) :
    (normalizeMembers members).map (·.1) = members.map (·.1) := by
  rw [normalizeMembers_eq_map, List.map_map]
  rfl

theorem find?_normalizeMembers (name : String) (members : Members) :
    find? name (normalizeMembers members) = (find? name members).map normalize := by
  induction members with
  | nil => rfl
  | cons member members ih =>
    obtain ⟨other, value⟩ := member
    rw [normalizeMembers, find?, find?]
    split_ifs
    · rfl
    · exact ih

theorem normalizeMembers_insertMember (name : String) (value : Json) (members : Members) :
    normalizeMembers (insertMember name value members) =
      insertMember name value.normalize (normalizeMembers members) := by
  induction members with
  | nil => rfl
  | cons member members ih =>
    obtain ⟨kept, keptValue⟩ := member
    rw [insertMember, normalizeMembers, insertMember]
    split_ifs
    · rfl
    · rfl
    · rw [normalizeMembers, ih]

theorem normalizeMembers_sortMembers (members : Members) :
    normalizeMembers (sortMembers members) = sortMembers (normalizeMembers members) := by
  induction members using List.reverseRecOn with
  | nil => rfl
  | append_singleton members member ih =>
    have last : normalizeMembers (members ++ [member]) =
        normalizeMembers members ++ [(member.1, member.2.normalize)] := by
      simp [normalizeMembers_eq_map]
    rw [last, sortMembers_append_singleton, sortMembers_append_singleton,
      normalizeMembers_insertMember, ih]

mutual

/-- A normal form is its own normal form. -/
theorem normalize_normalize : (v : Json) → v.normalize.normalize = v.normalize
  | null => rfl
  | bool _ => rfl
  | number _ => rfl
  | string _ => rfl
  | array items => by
    rw [normalize, normalize, normalizeItems_normalizeItems items]
  | object members => by
    rw [normalize, normalize, normalizeMembers_sortMembers,
      normalizeMembers_normalizeMembers members,
      sortMembers_of_ascending (ascending_sortMembers _)]

theorem normalizeItems_normalizeItems : (items : List Json) →
    normalizeItems (normalizeItems items) = normalizeItems items
  | [] => rfl
  | item :: items => by
    rw [normalizeItems, normalizeItems, normalize_normalize item,
      normalizeItems_normalizeItems items]

theorem normalizeMembers_normalizeMembers : (members : List (String × Json)) →
    normalizeMembers (normalizeMembers members) = normalizeMembers members
  | [] => rfl
  | (name, value) :: members => by
    rw [normalizeMembers, normalizeMembers, normalize_normalize value,
      normalizeMembers_normalizeMembers members]

end

/-! ## Numbers of normal forms -/

mutual

theorem printable_normalize : (v : Json) → v.Printable → v.normalize.Printable
  | null, printable => printable
  | bool _, printable => printable
  | number _, printable => printable
  | string _, printable => printable
  | array items, printable => by
    rw [normalize, printable_array_iff]
    exact printable_normalizeItems items (printable_array_iff.1 printable)
  | object members, printable => by
    rw [normalize, printable_object_iff]
    intro member mem
    exact printable_normalizeMembers members (printable_object_iff.1 printable) member
      (mem_of_mem_sortMembers mem)

theorem printable_normalizeItems : (items : List Json) → (∀ item ∈ items, item.Printable) →
    ∀ item ∈ normalizeItems items, item.Printable
  | [], _ => by
    intro item mem
    cases mem
  | item :: items, printable => by
    intro other mem
    rcases List.mem_cons.1 mem with rfl | mem
    · exact printable_normalize item (printable item List.mem_cons_self)
    · exact printable_normalizeItems items
        (fun item mem => printable item (List.mem_cons_of_mem _ mem)) other mem

theorem printable_normalizeMembers : (members : List (String × Json)) →
    (∀ member ∈ members, member.2.Printable) →
    ∀ member ∈ normalizeMembers members, member.2.Printable
  | [], _ => by
    intro member mem
    cases mem
  | (name, value) :: members, printable => by
    intro other mem
    rcases List.mem_cons.1 mem with rfl | mem
    · exact printable_normalize value (printable (name, value) List.mem_cons_self)
    · exact printable_normalizeMembers members
        (fun member mem => printable member (List.mem_cons_of_mem _ mem)) other mem

end

/-! ## Well-formed documents -/

/-- A document whose numbers are determined by their texts and whose members stand in order. -/
structure WellFormed (v : Json) : Prop where
  printable : v.Printable
  normal : v.normalize = v

instance (v : Json) : Decidable v.WellFormed :=
  decidable_of_iff (v.Printable ∧ v.normalize = v)
    ⟨fun both => ⟨both.1, both.2⟩, fun wellFormed => ⟨wellFormed.printable, wellFormed.normal⟩⟩

theorem wellFormed_normalize {v : Json} (printable : v.Printable) : v.normalize.WellFormed :=
  ⟨printable_normalize v printable, normalize_normalize v⟩

theorem wellFormed_array_iff {items : List Json} :
    (array items).WellFormed ↔ ∀ item ∈ items, item.WellFormed := by
  constructor
  · rintro ⟨printable, normal⟩ item mem
    refine ⟨printable_array_iff.1 printable item mem, ?_⟩
    rw [normalize, normalizeItems_eq_map] at normal
    exact List.map_inj_left.1 ((Json.array.inj normal).trans (List.map_id' _).symm) item mem
  · intro each
    refine ⟨printable_array_iff.2 fun item mem => (each item mem).printable, ?_⟩
    rw [normalize, normalizeItems_eq_map, List.map_congr_left fun item mem => (each item mem).normal,
      List.map_id']

theorem normalizeMembers_eq_self {members : Members}
    (normal : ∀ member ∈ members, member.2.normalize = member.2) :
    normalizeMembers members = members := by
  have same : ∀ member ∈ members, (member.1, member.2.normalize) = member := by
    intro member mem
    rw [normal member mem]
  rw [normalizeMembers_eq_map, List.map_congr_left same, List.map_id']

theorem wellFormed_object_iff {members : Members} :
    (object members).WellFormed ↔
      Ascending members ∧ ∀ member ∈ members, member.2.WellFormed := by
  constructor
  · rintro ⟨printable, normal⟩
    rw [normalize] at normal
    have sorted := Json.object.inj normal
    have ascending : Ascending members := sorted ▸ ascending_sortMembers _
    -- The names are in order already, so only the values can have changed, and they have not.
    have ascending' : Ascending (normalizeMembers members) := by
      have names := List.pairwise_map.2 ascending
      rw [← names_normalizeMembers] at names
      exact List.pairwise_map.1 names
    rw [sortMembers_of_ascending ascending', normalizeMembers_eq_map] at sorted
    refine ⟨ascending, fun member mem => ⟨printable_object_iff.1 printable member mem, ?_⟩⟩
    have same := List.map_inj_left.1 (sorted.trans (List.map_id' _).symm) member mem
    exact congrArg Prod.snd same
  · rintro ⟨ascending, each⟩
    refine ⟨printable_object_iff.2 fun member mem => (each member mem).printable, ?_⟩
    rw [normalize, normalizeMembers_eq_self fun member mem => (each member mem).normal,
      sortMembers_of_ascending ascending]

theorem WellFormed.member? {v value : Json} (wellFormed : v.WellFormed) {name : String}
    (found : v.member? name = some value) : value.WellFormed := by
  cases v with
  | object members => exact (wellFormed_object_iff.1 wellFormed).2 _ (mem_of_find? found)
  | _ => cases found

end CompletionCache.Json
