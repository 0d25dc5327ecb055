import CompletionCache.Json.Record
import CompletionCache.Proofs.Json.Collected

/-!
# What a record was read from

Each reader that succeeds tells what it has read: a field was there and was read to its value
(`field_eq_ok`), an absent field gives nothing (`field?_eq_ok`), the items of a list are read one by
one (`readList_eq_ok`). The further members of a record stand in order, are well-formed when the
record is printable, and none of them is a field (`collected_others`).
-/

set_option autoImplicit false

namespace CompletionCache.Json

variable {α β : Type}

theorem bind_eq_ok {ε : Type} {first : Except ε α} {next : α → Except ε β} {result : β} :
    first >>= next = .ok result ↔ ∃ value, first = .ok value ∧ next value = .ok result := by
  cases first with
  | error fault =>
    constructor
    · intro impossible
      cases impossible
    · rintro ⟨value, impossible, -⟩
      cases impossible
  | ok value =>
    constructor
    · intro read
      exact ⟨value, rfl, read⟩
    · rintro ⟨same, first, read⟩
      cases first
      exact read

/-- An action goes on behind a part of it that succeeds. -/
theorem bind_of_ok {ε : Type} {first : Except ε α} {value : α} (ok : first = .ok value)
    (next : α → Except ε β) : first >>= next = next value := by
  rw [ok]
  rfl

theorem map_eq_ok {ε : Type} {build : α → β} {first : Except ε α} {result : β} :
    build <$> first = .ok result ↔ ∃ value, first = .ok value ∧ build value = result := by
  cases first with
  | error fault =>
    constructor
    · intro impossible
      cases impossible
    · rintro ⟨value, impossible, -⟩
      cases impossible
  | ok value =>
    constructor
    · intro read
      cases read
      exact ⟨value, rfl, rfl⟩
    · rintro ⟨same, first, rfl⟩
      cases first
      rfl

theorem mapError_eq_ok {α ε ε' : Type} {read : Except ε α} {wrap : ε → ε'} {value : α} :
    read.mapError wrap = .ok value ↔ read = .ok value := by
  cases read <;> simp [Except.mapError]

theorem eq_ok_of_toOption {ε : Type} {result : Except ε α} {value : α}
    (given : result.toOption = some value) : result = .ok value := by
  cases result with
  | error fault => cases given
  | ok other =>
    cases given
    rfl

/-! ## Scalars and lists -/

/-- A whole number below a bound is read from its own document alone. -/
theorem readBelow_eq_ok_iff {bound : Nat} {expected : String} {v : Json} {n : Nat} :
    readBelow bound expected v = .ok n ↔ v = ofNat n ∧ n < bound := by
  constructor
  · intro ok
    cases v with
    | number value =>
      cases value with
      | integer value =>
        rw [readBelow] at ok
        split_ifs at ok with within
        cases ok
        rw [ofNat, Int.toNat_of_nonneg within.1]
        exact ⟨rfl, by omega⟩
      | real value => cases ok
    | _ => cases ok
  · rintro ⟨rfl, below⟩
    rw [ofNat, readBelow, if_pos ⟨Int.natCast_nonneg _, Int.ofNat_lt.2 below⟩, Int.toNat_natCast]

/-- A whole number of 64 bits is read from its own document alone. -/
theorem readUInt64_eq_ok_iff {v : Json} {n : UInt64} :
    readUInt64 v = .ok n ↔ v = ofNat n.toNat := by
  constructor
  · intro ok
    obtain ⟨k, read, ok⟩ := bind_eq_ok.1 ok
    cases ok
    obtain ⟨document, below⟩ := readBelow_eq_ok_iff.1 read
    rwa [UInt64.toNat_ofNat_of_lt' below]
  · rintro rfl
    refine bind_eq_ok.2 ⟨n.toNat, readBelow_eq_ok_iff.2 ⟨rfl, n.toNat_lt⟩, ?_⟩
    exact congrArg Except.ok UInt64.ofNat_toNat

theorem readOption_eq_ok {read : Json → Except Mismatch α} {v : Json} {value : Option α} :
    readOption read v = .ok value ↔
      (v = null ∧ value = none) ∨
        (v ≠ null ∧ ∃ inner, read v = .ok inner ∧ value = some inner) := by
  cases v with
  | null =>
    constructor
    · intro absent
      cases absent
      exact .inl ⟨rfl, rfl⟩
    · rintro (⟨-, rfl⟩ | ⟨present, -⟩)
      · rfl
      · exact absurd rfl present
  | _ =>
    rw [readOption, map_eq_ok]
    · simp [eq_comm]
    · simp

theorem readList_eq_ok {read : Json → Except Mismatch α} {v : Json} {values : List α}
    (ok : readList read v = .ok values) :
    ∃ items, v = array items ∧
      List.Forall₂ (fun item value => read item = .ok value) items values := by
  cases v with
  | array items =>
    refine ⟨items, rfl, ?_⟩
    -- The items are read from the first on, and the first fault ends it.
    rw [readList] at ok
    induction items generalizing values with
    | nil =>
      rw [List.mapM_nil] at ok
      cases ok
      exact .nil
    | cons item items ih =>
      rw [List.mapM_cons, bind_eq_ok] at ok
      obtain ⟨value, one, ok⟩ := ok
      rw [bind_eq_ok] at ok
      obtain ⟨others, rest, ok⟩ := ok
      cases ok
      exact .cons one (ih rest)
  | _ => cases ok

/-! ## Records -/

theorem record_object_eq_ok {layout : Layout} {members : Members} {record : Record}
    (ok : layout.record (object members) = .ok record) : record = ⟨layout, members, none⟩ := by
  rw [Layout.record, bind_eq_ok] at ok
  obtain ⟨-, -, ok⟩ := ok
  cases ok
  rfl

theorem layout_of_record {layout : Layout} {v : Json} {record : Record}
    (ok : layout.record v = .ok record) : record.layout = layout := by
  cases v with
  | object members => rw [record_object_eq_ok ok]
  | array items =>
    rw [Layout.record] at ok
    split_ifs at ok with collected
    · cases ok
    · obtain ⟨-, -, ok⟩ := bind_eq_ok.1 ok
      cases ok
      rfl
  | _ => cases ok

/-- The values of a record are parts of the document, whether it was an object or a list. -/
theorem printable_of_record {layout : Layout} {v : Json} {record : Record}
    (ok : layout.record v = .ok record) (printable : v.Printable) :
    ∀ member ∈ record.members, member.2.Printable := by
  cases v with
  | object members =>
    cases record_object_eq_ok ok
    exact printable_object_iff.1 printable
  | array items =>
    rw [Layout.record] at ok
    split_ifs at ok with collected
    · cases ok
    · obtain ⟨-, -, ok⟩ := bind_eq_ok.1 ok
      cases ok
      intro member mem
      exact printable_array_iff.1 printable member.2 (List.of_mem_zip mem).2
  | _ => cases ok

theorem field?_eq_ok {record : Record} {name : String} {read : Json → Except Mismatch α}
    {value : Option α} :
    record.field? name read = .ok value ↔
      (find? name record.members = none ∧ value = none) ∨
        ∃ v inner, find? name record.members = some v ∧ read v = .ok inner ∧
          value = some inner := by
  rw [Record.field?]
  cases found : find? name record.members with
  | none => simp [eq_comm]
  | some v =>
    rw [map_eq_ok]
    simp [eq_comm]

theorem field_eq_ok {record : Record} {name : String} {read : Json → Except Mismatch α} {value : α}
    (ok : record.field name read = .ok value) :
    ∃ v, find? name record.members = some v ∧ read v = .ok value := by
  rw [Record.field, bind_eq_ok] at ok
  obtain ⟨found, field, ok⟩ := ok
  rcases field?_eq_ok.1 field with ⟨-, rfl⟩ | ⟨v, inner, found, read, rfl⟩
  · cases ok
  · cases ok
    exact ⟨v, found, read⟩

/-! ## Fields -/

theorem mem_names_of_check? {layout : Layout} {name : String} {check : Json → Except Mismatch Unit}
    (field : layout.check? name = some check) : name ∈ layout.names := by
  obtain ⟨front, back, fields, -⟩ := List.lookup_eq_some_iff.1 field
  simp [Layout.names, fields]

theorem check?_eq_none_iff {layout : Layout} {name : String} :
    layout.check? name = none ↔ name ∉ layout.names := by
  rw [Layout.check?, List.lookup_eq_none_iff]
  constructor
  · intro apart mem
    obtain ⟨field, there, rfl⟩ := List.mem_map.1 mem
    exact bne_iff_ne.1 (apart field there) rfl
  · intro notMem field there
    apply bne_iff_ne.2
    rintro rfl
    exact notMem (List.mem_map_of_mem there)

/-! ## Further members -/

theorem mem_others {record : Record} {member : String × Json} (mem : member ∈ record.others) :
    ∃ kept ∈ record.members.filter fun member => (record.layout.check? member.1).isNone,
      member = (kept.1, kept.2.normalize) := by
  have mem := mem_of_mem_sortMembers mem
  rw [normalizeMembers_eq_map] at mem
  obtain ⟨kept, mem, eq⟩ := List.mem_map.1 mem
  exact ⟨kept, mem, eq.symm⟩

theorem collected_others {record : Record}
    (printable : ∀ member ∈ record.members, member.2.Printable) :
    Collected record.layout.names record.others := by
  refine ⟨ascending_sortMembers _, ?_, ?_⟩
  · intro member mem
    obtain ⟨kept, given, rfl⟩ := mem_others mem
    exact wellFormed_normalize (printable kept (List.mem_filter.1 given).1)
  · intro name field
    rw [find?_eq_none_iff]
    rintro member mem rfl
    obtain ⟨kept, given, rfl⟩ := mem_others mem
    -- A field has a check, and the members that have one are left out.
    have unchecked := Option.isNone_iff_eq_none.1 (List.mem_filter.1 given).2
    exact check?_eq_none_iff.1 unchecked field

/-- A member that was collected is no field. -/
theorem Collected.check?_eq_none {layout : Layout} {extra : Members}
    (collected : Collected layout.names extra) {member : String × Json} (mem : member ∈ extra) :
    layout.check? member.1 = none := by
  rw [check?_eq_none_iff]
  intro field
  exact find?_eq_none_iff.1 (collected.apart member.1 field) member mem rfl

/-- Members that were collected behind fields are collected again. -/
theorem Collected.others_eq {layout : Layout} {front extra : Members} {listed : Option Nat}
    (collected : Collected layout.names extra)
    (within : (front.map (·.1)).Sublist layout.names) :
    Record.others ⟨layout, front ++ extra, listed⟩ = extra := by
  have none : front.filter (fun member => (layout.check? member.1).isNone) = [] := by
    rw [List.filter_eq_nil_iff]
    intro member mem unchecked
    have field := within.subset (List.mem_map_of_mem mem)
    exact check?_eq_none_iff.1 (Option.isNone_iff_eq_none.1 unchecked) field
  have all : extra.filter (fun member => (layout.check? member.1).isNone) = extra := by
    rw [List.filter_eq_self]
    intro member mem
    rw [collected.check?_eq_none mem]
    rfl
  rw [Record.others, List.filter_append, none, all, List.nil_append,
    normalizeMembers_eq_self fun member mem => (collected.wellFormed member mem).normal,
    sortMembers_of_ascending collected.ascending]

/-! ## Members that pass -/

/-- A member passes as a further one that is not refused, or as a field that was not seen before and
whose value passes. -/
theorem checkMembers_cons_eq_ok_iff {layout : Layout} {seen : List String} {name : String}
    {value : Json} {members : Members} :
    layout.checkMembers seen ((name, value) :: members) = .ok () ↔
      (layout.check? name = none ∧ layout.others ≠ .refused ∧
        layout.checkMembers seen members = .ok ()) ∨
      ∃ check, layout.check? name = some check ∧ name ∉ seen ∧ check value = .ok () ∧
        layout.checkMembers (name :: seen) members = .ok () := by
  rw [Layout.checkMembers]
  cases layout.check? name with
  | none =>
    dsimp only
    split_ifs with refused
    · simp [refused]
    · simp [refused]
  | some check =>
    dsimp only
    by_cases repeated : seen.contains name = true
    · rw [if_pos repeated]
      have before : name ∈ seen := by simpa using repeated
      constructor
      · intro ok
        cases ok
      · rintro (⟨impossible, -⟩ | ⟨-, -, fresh, -⟩)
        · cases impossible
        · exact absurd before fresh
    · rw [if_neg repeated]
      have fresh : name ∉ seen := by simpa using repeated
      constructor
      · intro ok
        obtain ⟨⟨⟩, passed, rest⟩ := bind_eq_ok.1 ok
        exact .inr ⟨check, rfl, fresh, passed, rest⟩
      · rintro (⟨impossible, -⟩ | ⟨other, same, -, passed, rest⟩)
        · cases impossible
        · cases same
          exact bind_eq_ok.2 ⟨(), passed, rest⟩

/-- A layout that refuses further members lets nothing but fields pass. -/
theorem mem_names_of_checkMembers {layout : Layout} (refused : layout.others = .refused)
    {members : Members} {seen : List String} (ok : layout.checkMembers seen members = .ok ()) :
    ∀ member ∈ members, member.1 ∈ layout.names := by
  induction members generalizing seen with
  | nil =>
    intro member mem
    cases mem
  | cons first members ih =>
    rcases checkMembers_cons_eq_ok_iff.1 ok with ⟨-, open', -⟩ | ⟨check, field, -, -, rest⟩
    · exact absurd refused open'
    · exact List.forall_mem_cons.2 ⟨mem_names_of_check? field, ih rest⟩

theorem mem_names_of_record {layout : Layout} (refused : layout.others = .refused) {members : Members}
    {record : Record} (ok : layout.record (object members) = .ok record) :
    ∀ member ∈ members, member.1 ∈ layout.names := by
  obtain ⟨⟨⟩, checked, -⟩ := bind_eq_ok.1 ok
  exact mem_names_of_checkMembers refused checked

/-- The value of a field passes its check wherever it stands. -/
theorem check_of_checkMembers {layout : Layout} {members : Members} {seen : List String}
    (ok : layout.checkMembers seen members = .ok ()) {name : String} {value : Json}
    (mem : (name, value) ∈ members) {check : Json → Except Mismatch Unit}
    (field : layout.check? name = some check) : check value = .ok () := by
  induction members generalizing seen with
  | nil => cases mem
  | cons first members ih =>
    rcases checkMembers_cons_eq_ok_iff.1 ok with ⟨further, -, rest⟩ | ⟨found, there, -, passed, rest⟩
    · rcases List.mem_cons.1 mem with rfl | later
      · cases further.symm.trans field
      · exact ih rest later
    · rcases List.mem_cons.1 mem with rfl | later
      · cases there.symm.trans field
        exact passed
      · exact ih rest later

/-- A field that was seen before is not among members that pass. -/
theorem find?_eq_none_of_seen {layout : Layout} {members : Members} {seen : List String}
    (ok : layout.checkMembers seen members = .ok ()) {name : String} (field : name ∈ layout.names)
    (before : name ∈ seen) : find? name members = none := by
  induction members generalizing seen with
  | nil => rfl
  | cons member members ih =>
    obtain ⟨other, value⟩ := member
    rcases checkMembers_cons_eq_ok_iff.1 ok with ⟨further, -, rest⟩ | ⟨check, -, fresh, -, rest⟩
    · rw [find?, if_neg, ih rest before]
      rintro rfl
      exact check?_eq_none_iff.1 further field
    · rw [find?, if_neg, ih rest (List.mem_cons_of_mem _ before)]
      rintro rfl
      exact fresh before

/-- A field stands once among members that pass, so the last one of its name is the first one. -/
theorem find?_reverse_of_checkMembers {layout : Layout} {members : Members} {seen : List String}
    (ok : layout.checkMembers seen members = .ok ()) {name : String}
    (field : name ∈ layout.names) : find? name members.reverse = find? name members := by
  induction members generalizing seen with
  | nil => rfl
  | cons member members ih =>
    obtain ⟨other, value⟩ := member
    simp only [List.reverse_cons, find?_append, find?]
    rcases checkMembers_cons_eq_ok_iff.1 ok with ⟨further, -, rest⟩ | ⟨check, -, -, -, rest⟩
    · have different : other ≠ name := by
        rintro rfl
        exact check?_eq_none_iff.1 further field
      rw [ih rest, if_neg different, if_neg different, Option.or_none]
    · rw [ih rest]
      split_ifs with same
      · rw [find?_eq_none_of_seen rest field (same ▸ List.mem_cons_self), Option.none_or]
      · rw [Option.or_none]

/-! ## Objects that are read -/

/-- Members of distinct names pass when each field among them does and no other is refused. -/
theorem checkMembers_eq_ok {layout : Layout} {members : Members} {seen : List String}
    (further : ∀ member ∈ members, layout.check? member.1 = none → layout.others ≠ .refused)
    (nodup : (members.map (·.1)).Nodup) (unseen : ∀ member ∈ members, member.1 ∉ seen)
    (checks : ∀ member ∈ members, ∀ check, layout.check? member.1 = some check →
      check member.2 = .ok ()) :
    layout.checkMembers seen members = .ok () := by
  induction members generalizing seen with
  | nil => rfl
  | cons member members ih =>
    obtain ⟨name, value⟩ := member
    obtain ⟨new, nodup⟩ := List.nodup_cons.1 nodup
    have later := fun other mem => checks other (List.mem_cons_of_mem _ mem)
    have ih := fun seen unseen => @ih seen (fun other mem => further other (List.mem_cons_of_mem _ mem))
      nodup unseen later
    rw [checkMembers_cons_eq_ok_iff]
    cases field : layout.check? name with
    | none =>
      exact .inl ⟨rfl, further _ List.mem_cons_self field,
        ih seen fun other mem => unseen other (List.mem_cons_of_mem _ mem)⟩
    | some check =>
      refine .inr ⟨check, rfl, unseen _ List.mem_cons_self, checks _ List.mem_cons_self check field,
        ih (name :: seen) ?_⟩
      -- A name behind the field is neither the name of the field nor one before it.
      intro other mem listed
      rcases List.mem_cons.1 listed with same | before
      · exact new (List.mem_map.2 ⟨other, mem, same⟩)
      · exact unseen other (List.mem_cons_of_mem _ mem) before

theorem record_object {layout : Layout} {members : Members}
    (further : ∀ member ∈ members, layout.check? member.1 = none → layout.others ≠ .refused)
    (nodup : (members.map (·.1)).Nodup)
    (checks : ∀ member ∈ members, ∀ check, layout.check? member.1 = some check →
      check member.2 = .ok ()) :
    layout.record (object members) = .ok ⟨layout, members, none⟩ := by
  rw [Layout.record, checkMembers_eq_ok further nodup (fun _ _ => List.not_mem_nil) checks]
  rfl

/-- A value that is read passes the check of its field. -/
theorem check_of_read {read : Json → Except Mismatch α} {v : Json} {value : α}
    (ok : read v = .ok value) {check : Json → Except Mismatch Unit}
    (field : some (fun v => discard (read v)) = some check) : check v = .ok () := by
  cases field
  simp only [ok]
  rfl

theorem field?_of_find? {record : Record} {name : String} {read : Json → Except Mismatch α} {v : Json}
    {value : α} (found : find? name record.members = some v) (ok : read v = .ok value) :
    record.field? name read = .ok (some value) :=
  field?_eq_ok.2 (.inr ⟨v, value, found, ok, rfl⟩)

theorem field_of_find? {record : Record} {name : String} {read : Json → Except Mismatch α} {v : Json}
    {value : α} (found : find? name record.members = some v) (ok : read v = .ok value) :
    record.field name read = .ok value := by
  rw [Record.field, bind_eq_ok]
  exact ⟨some value, field?_of_find? found ok, rfl⟩

/-- A field that is there passes its check. -/
def Passes (members : Members) (field : String × (Json → Except Mismatch Unit)) : Prop :=
  ∀ v, find? field.1 members = some v → field.2 v = .ok ()

theorem passes_of_field? {record : Record} {name : String} {read : Json → Except Mismatch α}
    {value : Option α} (ok : record.field? name read = .ok value) :
    Passes record.members (fieldOf name read) := by
  intro v found
  rcases field?_eq_ok.1 ok with ⟨absent, -⟩ | ⟨w, inner, there, read, -⟩
  · cases found.symm.trans absent
  · obtain rfl := Option.some.inj (found.symm.trans there)
    exact check_of_read read rfl

theorem passes_of_field {record : Record} {name : String} {read : Json → Except Mismatch α}
    {value : α} (ok : record.field name read = .ok value) :
    Passes record.members (fieldOf name read) := by
  rw [Record.field, bind_eq_ok] at ok
  obtain ⟨found, field, -⟩ := ok
  exact passes_of_field? field

theorem checks_of_passes {layout : Layout} {members : Members} (nodup : (members.map (·.1)).Nodup)
    (passes : ∀ field ∈ layout.fields, Passes members field) :
    ∀ member ∈ members, ∀ check, layout.check? member.1 = some check → check member.2 = .ok () := by
  rintro ⟨name, value⟩ mem check field
  obtain ⟨front, back, fields, -⟩ := List.lookup_eq_some_iff.1 field
  have listed : (name, check) ∈ layout.fields := by simp [fields]
  exact passes _ listed value (find?_of_mem nodup mem)

/-- Members of distinct names make a record when every field that is there passes its check. -/
theorem record_of_passes {layout : Layout} (open' : layout.others ≠ .refused) {members : Members}
    (nodup : (members.map (·.1)).Nodup) (passes : ∀ field ∈ layout.fields, Passes members field) :
    layout.record (object members) = .ok ⟨layout, members, none⟩ :=
  record_object (fun _ _ _ => open') nodup (checks_of_passes nodup passes)

/-- Fields alone make a record of any layout when each of them passes its check. -/
theorem record_of_fields {layout : Layout} {members : Members}
    (fields : ∀ member ∈ members, member.1 ∈ layout.names) (nodup : (members.map (·.1)).Nodup)
    (passes : ∀ field ∈ layout.fields, Passes members field) :
    layout.record (object members) = .ok ⟨layout, members, none⟩ :=
  record_object (fun member mem unchecked => absurd (fields member mem) (check?_eq_none_iff.1 unchecked))
    nodup (checks_of_passes nodup passes)

theorem readAny_list (items : List Json) :
    readList readAny (array items) = .ok (items.map normalize) :=
  List.mapM_pure

end CompletionCache.Json
