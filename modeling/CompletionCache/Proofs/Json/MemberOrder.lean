import CompletionCache.Proofs.Json.Collected

/-!
# Documents up to the order of members

Two documents are `Reordered` when they differ in the order of members alone, at any depth. Among
documents that repeat no name, a document is a reordering of its normal form (`reordered_normalize`),
whose objects are in order at every depth (`sorted_normalize`), and the normal form is the same for all
its reorderings and for no other document (`normalize_eq_iff_reordered`).
-/

set_option autoImplicit false

namespace CompletionCache.Json

/-! ## Documents by induction -/

theorem sizeOf_item_lt {items : List Json} {item : Json} (mem : item ∈ items) :
    sizeOf item < sizeOf (array items) := by
  have smaller := List.sizeOf_lt_of_mem mem
  rw [array.sizeOf_spec]
  omega

theorem sizeOf_value_lt {members : Members} {member : String × Json} (mem : member ∈ members) :
    sizeOf member.2 < sizeOf (object members) := by
  have smaller := List.sizeOf_lt_of_mem mem
  have inside : sizeOf member = 1 + sizeOf member.1 + sizeOf member.2 := rfl
  rw [object.sizeOf_spec]
  omega

/-- What holds of every scalar, and of every container when it holds of the values in it, holds of all
documents. -/
@[elab_as_elim]
theorem induct {motive : Json → Prop} (null : motive null) (bool : ∀ b, motive (bool b))
    (number : ∀ n, motive (number n)) (string : ∀ s, motive (string s))
    (array : ∀ items, (∀ item ∈ items, motive item) → motive (array items))
    (object : ∀ members, (∀ member ∈ members, motive member.2) → motive (object members))
    (v : Json) : motive v := by
  -- The values in a container are smaller than it.
  refine (measure (sizeOf : Json → Nat)).wf.induction v fun v smaller => ?_
  cases v with
  | null => exact null
  | bool b => exact bool b
  | number n => exact number n
  | string s => exact string s
  | array items => exact array items fun item mem => smaller item (sizeOf_item_lt mem)
  | object members =>
    exact object members fun member mem => smaller member.2 (sizeOf_value_lt mem)

/-! ## Objects at every depth -/

mutual

/-- The members of every object of a document. -/
def objects : Json → List Members
  | array items => objectsOfItems items
  | object members => members :: objectsOfMembers members
  | _ => []

/-- The members of every object of some items. -/
def objectsOfItems : List Json → List Members
  | [] => []
  | item :: rest => objects item ++ objectsOfItems rest

/-- The members of every object in the values of some members. -/
def objectsOfMembers : List (String × Json) → List Members
  | [] => []
  | (_, value) :: rest => objects value ++ objectsOfMembers rest

end

section Objects

variable {P : Members → Prop}

theorem forall_objects_array_iff {items : List Json} :
    (∀ inner ∈ (array items).objects, P inner) ↔ ∀ item ∈ items, ∀ inner ∈ item.objects, P inner := by
  rw [objects]
  induction items with
  | nil => simp [objectsOfItems]
  | cons item items ih => simp [objectsOfItems, or_imp, forall_and, ih]

theorem forall_objects_object_iff {members : Members} :
    (∀ inner ∈ (object members).objects, P inner) ↔
      P members ∧ ∀ member ∈ members, ∀ inner ∈ member.2.objects, P inner := by
  have values : (∀ inner ∈ objectsOfMembers members, P inner) ↔
      ∀ member ∈ members, ∀ inner ∈ member.2.objects, P inner := by
    induction members with
    | nil => simp [objectsOfMembers]
    | cons member members ih => simp [objectsOfMembers, or_imp, forall_and, ih]
  rw [objects, List.forall_mem_cons, values]

end Objects

/-- A document none of whose objects repeats a name. -/
def DistinctNames (v : Json) : Prop := ∀ members ∈ v.objects, (members.map (·.1)).Nodup

instance (v : Json) : Decidable v.DistinctNames :=
  inferInstanceAs (Decidable (∀ members ∈ v.objects, (members.map (·.1)).Nodup))

/-- A document whose objects have their members in the order of the names, each name once. -/
def Sorted (v : Json) : Prop := ∀ members ∈ v.objects, Ascending members

theorem distinctNames_array_iff {items : List Json} :
    (array items).DistinctNames ↔ ∀ item ∈ items, item.DistinctNames := forall_objects_array_iff

theorem distinctNames_object_iff {members : Members} :
    (object members).DistinctNames ↔
      (members.map (·.1)).Nodup ∧ ∀ member ∈ members, member.2.DistinctNames :=
  forall_objects_object_iff

theorem sorted_array_iff {items : List Json} :
    (array items).Sorted ↔ ∀ item ∈ items, item.Sorted := forall_objects_array_iff

theorem sorted_object_iff {members : Members} :
    (object members).Sorted ↔ Ascending members ∧ ∀ member ∈ members, member.2.Sorted :=
  forall_objects_object_iff

/-- The normal form is in order at every depth, whatever names are repeated. -/
theorem sorted_normalize (v : Json) : v.normalize.Sorted := by
  induction v using induct with
  | null | bool | number | string =>
    intro members mem
    cases mem
  | array items ih =>
    rw [normalize, normalizeItems_eq_map, sorted_array_iff]
    intro item mem
    obtain ⟨given, inItems, rfl⟩ := List.mem_map.1 mem
    exact ih given inItems
  | object members ih =>
    rw [normalize, sorted_object_iff]
    refine ⟨ascending_sortMembers _, ?_⟩
    intro member mem
    have mem := mem_of_mem_sortMembers mem
    rw [normalizeMembers_eq_map] at mem
    obtain ⟨given, inMembers, rfl⟩ := List.mem_map.1 mem
    exact ih given inMembers

/-! ## Reorderings -/

/-- Two documents that differ in the order of members alone: the scalars are the same, lists have as
many items and reordered ones at each place, and objects have the same names and reordered values under
each name. -/
inductive Reordered : Json → Json → Prop
  | null : Reordered null null
  | bool (value : Bool) : Reordered (bool value) (bool value)
  | number (value : Number) : Reordered (number value) (number value)
  | string (value : String) : Reordered (string value) (string value)
  | array {items items' : List Json} (length : items.length = items'.length)
      (each : ∀ (place : Nat) (item item' : Json), items[place]? = some item →
        items'[place]? = some item' → Reordered item item') :
      Reordered (array items) (array items')
  | object {members members' : Members}
      (names : (members.map (·.1)).Perm (members'.map (·.1)))
      (each : ∀ (name : String) (value value' : Json), (name, value) ∈ members →
        (name, value') ∈ members' → Reordered value value') :
      Reordered (object members) (object members')

/-- Members with the same names have a counterpart each. -/
theorem exists_mem_of_perm {members members' : Members}
    (names : (members.map (·.1)).Perm (members'.map (·.1))) {name : String} {value : Json}
    (mem : (name, value) ∈ members) : ∃ value', (name, value') ∈ members' := by
  obtain ⟨⟨other, value'⟩, there, same⟩ :=
    List.mem_map.1 (names.subset (List.mem_map_of_mem (f := (·.1)) mem))
  exact ⟨value', by rwa [show other = name from same] at there⟩

/-- Lists of one length have a counterpart for each item. -/
theorem exists_getElem?_of_length {items items' : List Json} (length : items.length = items'.length)
    {place : Nat} {item : Json} (found : items[place]? = some item) :
    ∃ item', items'[place]? = some item' := by
  obtain ⟨inside, -⟩ := List.getElem?_eq_some_iff.1 found
  exact ⟨_, List.getElem?_eq_getElem (length ▸ inside)⟩

namespace Reordered

theorem symm {v w : Json} (reordered : Reordered v w) : Reordered w v := by
  induction reordered with
  | null => exact .null
  | bool b => exact .bool b
  | number n => exact .number n
  | string s => exact .string s
  | array length each ih =>
    exact .array length.symm fun place item item' found found' => ih place item' item found' found
  | object names each ih =>
    exact .object names.symm fun name value value' mem mem' => ih name value' value mem' mem

theorem trans {u v w : Json} (first : Reordered u v) (second : Reordered v w) : Reordered u w := by
  -- The induction is on the first reordering, and the second one has the same shape.
  induction first generalizing w with
  | null | bool | number | string => exact second
  | array length each ih =>
    cases second with
    | array length' each' =>
      refine .array (length.trans length') ?_
      intro place item item' found found'
      obtain ⟨between, there⟩ := exists_getElem?_of_length length found
      exact ih place item between found there (each' place between item' there found')
  | object names each ih =>
    cases second with
    | object names' each' =>
      refine .object (names.trans names') ?_
      intro name value value' mem mem'
      obtain ⟨between, there⟩ := exists_mem_of_perm names mem
      exact ih name value between mem there (each' name between value' there mem')

end Reordered

/-! ## Normal forms of reorderings -/

/-- Sorting members that repeat no name loses none of them. -/
theorem perm_sortMembers {members : Members} (nodup : (members.map (·.1)).Nodup) :
    (sortMembers members).Perm members := by
  have sorted := nodup_names (ascending_sortMembers members)
  refine (List.perm_ext_iff_of_nodup sorted.of_map nodup.of_map).2 ?_
  rintro ⟨name, value⟩
  refine ⟨mem_of_mem_sortMembers, ?_⟩
  intro mem
  apply mem_of_find?
  rw [find?_sortMembers_of_nodup nodup, find?_of_mem nodup mem]

/-- The normal form of an object holds its members with their values in normal form. -/
theorem exists_normalize_object {members : Members} (nodup : (members.map (·.1)).Nodup) :
    ∃ sorted, (object members).normalize = object sorted ∧ Ascending sorted ∧
      sorted.Perm (members.map fun member => (member.1, member.2.normalize)) := by
  refine ⟨_, rfl, ascending_sortMembers _, ?_⟩
  rw [← normalizeMembers_eq_map]
  exact perm_sortMembers (by rwa [names_normalizeMembers])

/-- A document that repeats no name is a reordering of its normal form. -/
theorem reordered_normalize {v : Json} (distinct : v.DistinctNames) : Reordered v v.normalize := by
  induction v using induct with
  | null => exact .null
  | bool b => exact .bool b
  | number n => exact .number n
  | string s => exact .string s
  | array items ih =>
    rw [distinctNames_array_iff] at distinct
    rw [normalize, normalizeItems_eq_map]
    refine .array (List.length_map normalize).symm ?_
    intro place item item' found found'
    rw [List.getElem?_map, found] at found'
    cases found'
    have mem := List.mem_of_getElem? found
    exact ih item mem (distinct item mem)
  | object members ih =>
    obtain ⟨nodup, distinct⟩ := distinctNames_object_iff.1 distinct
    obtain ⟨sorted, form, -, perm⟩ := exists_normalize_object nodup
    rw [form]
    refine .object ?_ ?_
    · have names := perm.map (·.1)
      rw [List.map_map] at names
      exact names.symm
    · intro name value value' mem mem'
      -- What stands under the name in the normal form comes from the one member of that name.
      obtain ⟨⟨other, given⟩, inMembers, same⟩ := List.mem_map.1 (perm.subset mem')
      cases same
      have one := find?_of_mem nodup inMembers
      rw [find?_of_mem nodup mem] at one
      cases one
      exact ih _ mem (distinct _ mem)

/-- Lists of one length have one normal form when the items at each place do. -/
theorem normalizeItems_eq {items items' : List Json} (length : items.length = items'.length)
    (same : ∀ (place : Nat) (item item' : Json), items[place]? = some item →
      items'[place]? = some item' → item.normalize = item'.normalize) :
    normalizeItems items = normalizeItems items' := by
  rw [normalizeItems_eq_map, normalizeItems_eq_map]
  refine List.ext_getElem? fun place => ?_
  rw [List.getElem?_map, List.getElem?_map]
  cases found : items[place]? with
  | none =>
    have outside := List.getElem?_eq_none_iff.1 found
    rw [List.getElem?_eq_none_iff.2 (length ▸ outside)]
  | some item =>
    obtain ⟨item', found'⟩ := exists_getElem?_of_length length found
    rw [found']
    exact congrArg some (same place item item' found found')

/-- Members with the same names, none of them repeated, have one normal form when the values under each
name do. -/
theorem sortMembers_normalizeMembers_eq {members members' : Members}
    (nodup : (members.map (·.1)).Nodup) (names : (members.map (·.1)).Perm (members'.map (·.1)))
    (same : ∀ (name : String) (value value' : Json), (name, value) ∈ members →
      (name, value') ∈ members' → value.normalize = value'.normalize) :
    sortMembers (normalizeMembers members) = sortMembers (normalizeMembers members') := by
  have nodup' := names.nodup nodup
  refine eq_of_find?_eq (ascending_sortMembers _) (ascending_sortMembers _) fun name => ?_
  rw [find?_sortMembers_of_nodup (by rwa [names_normalizeMembers]),
    find?_sortMembers_of_nodup (by rwa [names_normalizeMembers]), find?_normalizeMembers,
    find?_normalizeMembers]
  -- A name stands in both lists of members or in neither.
  cases found : find? name members with
  | none =>
    cases found' : find? name members' with
    | none => rfl
    | some value' =>
      obtain ⟨value, mem⟩ := exists_mem_of_perm names.symm (mem_of_find? found')
      exact absurd rfl (find?_eq_none_iff.1 found _ mem)
  | some value =>
    have mem := mem_of_find? found
    obtain ⟨value', mem'⟩ := exists_mem_of_perm names mem
    rw [find?_of_mem nodup' mem']
    exact congrArg some (same name value value' mem mem')

/-- Reorderings have one normal form. -/
theorem Reordered.normalize_eq {v w : Json} (reordered : Reordered v w)
    (distinct : v.DistinctNames) : v.normalize = w.normalize := by
  induction reordered with
  | null | bool | number | string => rfl
  | array length each ih =>
    rw [distinctNames_array_iff] at distinct
    rw [normalize, normalize, normalizeItems_eq length]
    intro place item item' found found'
    exact ih place item item' found found' (distinct item (List.mem_of_getElem? found))
  | object names each ih =>
    obtain ⟨nodup, distinct⟩ := distinctNames_object_iff.1 distinct
    rw [normalize, normalize, sortMembers_normalizeMembers_eq nodup names]
    intro name value value' mem mem'
    exact ih name value value' mem mem' (distinct _ mem)

/-- Documents that repeat no name have one normal form exactly when they are reorderings of each
other. -/
theorem normalize_eq_iff_reordered {v w : Json} (distinct : v.DistinctNames)
    (distinct' : w.DistinctNames) : v.normalize = w.normalize ↔ Reordered v w := by
  refine ⟨?_, fun reordered => reordered.normalize_eq distinct⟩
  intro same
  -- From one document to the other by way of the normal form that they share.
  have back := (reordered_normalize distinct').symm
  rw [← same] at back
  exact (reordered_normalize distinct).trans back

end CompletionCache.Json
