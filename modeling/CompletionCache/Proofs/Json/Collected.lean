import CompletionCache.Proofs.Json.NormalForm

/-!
# Objects of fields and further members

Records are written as objects: their fields, those that are absent left out, and behind them further
members that shadow no field (`Collected`). The normal form of such an object determines what every
field gives and all further members (`Collected.of_normalize_eq`).
-/

set_option autoImplicit false

namespace CompletionCache.Json

/-! ## Fields that may be absent -/

theorem find?_optionalMember {α : Type} (name other : String) (encode : α → Json)
    (value : Option α) :
    find? name (optionalMember other encode value) =
      if other = name then value.map encode else none := by
  cases value with
  | none => simp [optionalMember, find?]
  | some value => simp [optionalMember, find?]

theorem names_optionalMember_sublist {α : Type} (name : String) (encode : α → Json)
    (value : Option α) : ((optionalMember name encode value).map (·.1)).Sublist [name] := by
  cases value with
  | none => exact List.nil_sublist _
  | some value => exact List.Sublist.refl _

theorem names_cons_sublist {front : Members} {fields : List String}
    (within : (front.map (·.1)).Sublist fields) (name : String) (value : Json) :
    (((name, value) :: front).map (·.1)).Sublist (name :: fields) :=
  within.cons_cons name

theorem names_append_sublist {α : Type} {front : Members} {fields : List String}
    (within : (front.map (·.1)).Sublist fields) (name : String) (encode : α → Json)
    (value : Option α) :
    ((front ++ optionalMember name encode value).map (·.1)).Sublist (fields ++ [name]) := by
  rw [List.map_append]
  exact within.append (names_optionalMember_sublist name encode value)

theorem find?_eq_none_of_sublist {members : Members} {names : List String}
    (within : (members.map (·.1)).Sublist names) {name : String} (outside : name ∉ names) :
    find? name members = none := by
  rw [find?_eq_none_iff]
  rintro member mem rfl
  exact outside (within.subset (List.mem_map_of_mem mem))

theorem member?_normalize_object {members : Members} (nodup : (members.map (·.1)).Nodup)
    (name : String) :
    (normalize (object members)).member? name = (find? name members).map normalize := by
  rw [normalize, member?, find?_sortMembers_of_nodup (by rwa [names_normalizeMembers]),
    find?_normalizeMembers]

/-! ## Further members -/

/-- Members kept beside some fields: in order, well-formed, and none of them one of the fields. -/
structure Collected (fields : List String) (members : Members) : Prop where
  ascending : Ascending members
  wellFormed : ∀ member ∈ members, member.2.WellFormed
  apart : ∀ name ∈ fields, find? name members = none

/-- Members beside which nothing shadows them have names of their own. -/
theorem Collected.nodup_append {fields : List String} {front extra : Members}
    (collected : Collected fields extra) (within : (front.map (·.1)).Sublist fields)
    (nodup : fields.Nodup) : ((front ++ extra).map (·.1)).Nodup := by
  rw [List.map_append, List.nodup_append]
  refine ⟨nodup.sublist within, nodup_names collected.ascending, ?_⟩
  rintro name inFront other inExtra rfl
  obtain ⟨member, mem, rfl⟩ := List.mem_map.1 inExtra
  exact find?_eq_none_iff.1 (collected.apart _ (within.subset inFront)) member mem rfl

theorem Collected.map_find?_normalize {fields : List String} {extra : Members}
    (collected : Collected fields extra) (name : String) :
    (find? name extra).map normalize = find? name extra := by
  cases found : find? name extra with
  | none => rfl
  | some value =>
    exact congrArg some (collected.wellFormed _ (mem_of_find? found)).normal

/-- The normal form of an object determines what its fields give, up to their own normal forms, and
its further members. -/
theorem Collected.of_normalize_eq {fields : List String} (nodup : fields.Nodup)
    {front front' extra extra' : Members} (collected : Collected fields extra)
    (collected' : Collected fields extra') (within : (front.map (·.1)).Sublist fields)
    (within' : (front'.map (·.1)).Sublist fields)
    (same : normalize (object (front ++ extra)) = normalize (object (front' ++ extra'))) :
    (∀ name ∈ fields, (find? name front).map normalize = (find? name front').map normalize) ∧
      extra = extra' := by
  have members : ∀ name, (find? name (front ++ extra)).map normalize =
      (find? name (front' ++ extra')).map normalize := by
    intro name
    rw [← member?_normalize_object (collected.nodup_append within nodup),
      ← member?_normalize_object (collected'.nodup_append within' nodup), same]
  refine ⟨?_, Json.eq_of_find?_eq collected.ascending collected'.ascending ?_⟩
  · intro name field
    have here := members name
    rwa [find?_append, find?_append, collected.apart name field, collected'.apart name field,
      Option.or_none, Option.or_none] at here
  · intro name
    -- No further member has the name of a field, and no member in front has another name.
    by_cases field : name ∈ fields
    · rw [collected.apart name field, collected'.apart name field]
    · have behind := members name
      rwa [find?_append, find?_append, find?_eq_none_of_sublist within field,
        find?_eq_none_of_sublist within' field, Option.none_or, Option.none_or,
        collected.map_find?_normalize, collected'.map_find?_normalize] at behind

theorem Collected.printable {fields : List String} {extra : Members}
    (collected : Collected fields extra) : ∀ member ∈ extra, member.2.Printable :=
  fun member mem => (collected.wellFormed member mem).printable

/-! ## Values of all members -/

theorem printable_string (value : String) : (string value).Printable := by
  intro n mem
  cases mem

theorem forall_optionalMember {α : Type} {P : Json → Prop} {name : String} {encode : α → Json}
    {value : Option α} (each : ∀ a, value = some a → P (encode a)) :
    ∀ member ∈ optionalMember name encode value, P member.2 := by
  intro member mem
  cases value with
  | none => cases mem
  | some a =>
    rw [List.mem_singleton.1 mem]
    exact each a rfl

theorem forall_append {P : Json → Prop} {front back : Members}
    (inFront : ∀ member ∈ front, P member.2) (inBack : ∀ member ∈ back, P member.2) :
    ∀ member ∈ front ++ back, P member.2 := by
  intro member mem
  exact (List.mem_append.1 mem).elim (inFront member) (inBack member)

theorem forall_cons {P : Json → Prop} {name : String} {value : Json} {back : Members}
    (first : P value) (inBack : ∀ member ∈ back, P member.2) :
    ∀ member ∈ (name, value) :: back, P member.2 := by
  intro member mem
  rcases List.mem_cons.1 mem with rfl | mem
  · exact first
  · exact inBack member mem

/-- A document whose text stands for a value: printable, and not the null of an absent one. -/
structure Legible (v : Json) : Prop where
  printable : v.Printable
  notNull : v ≠ .null

end CompletionCache.Json
