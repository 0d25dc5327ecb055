import CompletionCache.Proofs.Request.Spelling
import CompletionCache.Settings.Yaml

/-!
# Members that settings do not know

Settings and the config in them refuse a member that is none of their fields, whether they are read from a
document or from YAML text. A backend passes over such a member: it is read as if the member were not there
(`BackendConfig.ofJson_filter_known`), so a misspelt field has its default
(`Settings.unknown_refused_but_in_backend`, `Settings.misspelt_prefix_read`).
-/

set_option autoImplicit false

namespace CompletionCache

open Json (Mismatch find? bind_eq_ok eq_ok_of_toOption)

/-! ## Results without a value -/

/-- What gives no value is a fault. -/
theorem exists_error_of_forall_ne {ε α : Type} {result : Except ε α}
    (fails : ∀ value, result ≠ .ok value) : ∃ fault, result = .error fault := by
  cases result with
  | error fault => exact ⟨fault, rfl⟩
  | ok value => exact absurd rfl (fails value)

/-- Where a list is read, each of its items is. -/
theorem exists_ok_of_mapM {ε α β : Type} {read : α → Except ε β} {items : List α} {values : List β}
    (ok : items.mapM read = .ok values) : ∀ item ∈ items, ∃ value, read item = .ok value := by
  induction items generalizing values with
  | nil =>
    intro item mem
    cases mem
  | cons first items ih =>
    rw [List.mapM_cons, bind_eq_ok] at ok
    obtain ⟨value, one, ok⟩ := ok
    obtain ⟨others, rest, -⟩ := bind_eq_ok.1 ok
    exact List.forall_mem_cons.2 ⟨⟨value, one⟩, ih rest⟩

namespace Json

/-- What is read of a record is the same for members that are checked alike and read alike. -/
theorem record_bind_eq {α : Type} {layout : Layout} {members members' : Members}
    {next : Record → Except Mismatch α}
    (checked : layout.checkMembers [] members = layout.checkMembers [] members')
    (same : next ⟨layout, members, none⟩ = next ⟨layout, members', none⟩) :
    layout.record (object members) >>= next = layout.record (object members') >>= next := by
  rw [Layout.record, Layout.record, checked]
  cases layout.checkMembers [] members' with
  | error fault => rfl
  | ok passed => exact same

/-! ## Further members that are passed over -/

/-- A layout that refuses nothing checks the fields alone. -/
theorem checkMembers_filter {layout : Layout} (open' : layout.others ≠ .refused) {keep : String → Bool}
    (fields : ∀ name ∈ layout.names, keep name = true) (members : Members) (seen : List String) :
    layout.checkMembers seen (members.filter fun member => keep member.1) =
      layout.checkMembers seen members := by
  induction members generalizing seen with
  | nil => rfl
  | cons member members ih =>
    obtain ⟨name, value⟩ := member
    rw [List.filter_cons]
    by_cases kept : keep name = true
    · rw [if_pos kept, Layout.checkMembers, Layout.checkMembers]
      cases layout.check? name with
      | none => simp only [ih]
      | some check => simp only [ih]
    · rw [if_neg kept, ih, Layout.checkMembers,
        check?_eq_none_iff.2 fun field => kept (fields name field)]
      dsimp only
      rw [if_neg open']

theorem field?_filter {α : Type} {layout : Layout} {keep : String → Bool} {name : String}
    (kept : keep name = true) (members : Members) (listed : Option Nat)
    (read : Json → Except Mismatch α) :
    Record.field? ⟨layout, members.filter fun member => keep member.1, listed⟩ name read =
      Record.field? ⟨layout, members, listed⟩ name read := by
  rw [Record.field?, Record.field?, find?_filter keep kept]

theorem field_filter {α : Type} {layout : Layout} {keep : String → Bool} {name : String}
    (kept : keep name = true) (members : Members) (listed : Option Nat)
    (read : Json → Except Mismatch α) :
    Record.field ⟨layout, members.filter fun member => keep member.1, listed⟩ name read =
      Record.field ⟨layout, members, listed⟩ name read := by
  rw [Record.field, Record.field, field?_filter kept]
  rfl

/-! ## A value that gives way to another -/

variable {layout : Layout} {name : String} {v w : Json}

theorem checkMembers_append_eq (same : ∀ check, layout.check? name = some check → check v = check w)
    (front back : Members) (seen : List String) :
    layout.checkMembers seen (front ++ (name, v) :: back) =
      layout.checkMembers seen (front ++ (name, w) :: back) := by
  induction front generalizing seen with
  | nil =>
    rw [List.nil_append, List.nil_append, Layout.checkMembers, Layout.checkMembers]
    cases field : layout.check? name with
    | none => rfl
    | some check => simp only [same check field]
  | cons member front ih =>
    rw [List.cons_append, List.cons_append, Layout.checkMembers, Layout.checkMembers]
    simp only [ih]

theorem field?_append_eq {α : Type} {other : String} {read : Json → Except Mismatch α}
    (same : name = other → read v = read w) (front back : Members) (listed : Option Nat) :
    Record.field? ⟨layout, front ++ (name, v) :: back, listed⟩ other read =
      Record.field? ⟨layout, front ++ (name, w) :: back, listed⟩ other read := by
  rw [Record.field?, Record.field?]
  simp only [find?_append, find?]
  cases find? other front with
  | some value => rfl
  | none =>
    by_cases here : name = other
    · simp only [if_pos here, Option.none_or, same here]
    · simp only [if_neg here, Option.none_or]

end Json

/-! ## Backends -/

namespace BackendConfig

/-- The members of a backend that are read: its kind and the fields of the kind. -/
def isKnown (kind : BackendKind) (name : String) : Bool :=
  name = kindName || (layoutOf kind).names.contains name

theorem isKnown_of_mem {kind : BackendKind} {name : String} (field : name ∈ (layoutOf kind).names) :
    isKnown kind name = true := by
  simp [isKnown, field]

theorem findKind_filter {keep : String → Bool} (kept : keep kindName = true) (members : Members) :
    findKind (members.filter fun member => keep member.1) = findKind members := by
  induction members with
  | nil => rfl
  | cons member members ih =>
    obtain ⟨name, value⟩ := member
    rw [List.filter_cons]
    by_cases here : name = kindName
    · rw [if_pos (here ▸ kept), findKind, findKind, ih]
    · split_ifs
      · rw [findKind, findKind, ih]
      · rw [findKind, if_neg here, ih]

/-- The settings of a kind are read from its fields alone. -/
theorem readChoice_filter {kind : BackendKind} {keep : String → Bool}
    (fields : ∀ name ∈ (layoutOf kind).names, keep name = true) (members : Members) :
    readChoice kind (.object (members.filter fun member => keep member.1)) =
      readChoice kind (.object members) := by
  cases kind with
  | inProcess =>
    apply Json.record_bind_eq (Json.checkMembers_filter (by decide) fields members [])
    rw [Json.field?_filter (fields "cleanup_interval_secs" (by decide))]
    rfl
  | shared =>
    apply Json.record_bind_eq (Json.checkMembers_filter (by decide) fields members [])
    rw [StoreConfig.ofRecord, StoreConfig.ofRecord,
      Json.field_filter (fields "url" (by decide)),
      Json.field?_filter (fields "key_prefix" (by decide)),
      Json.field?_filter (fields "connect_timeout_ms" (by decide))]
    rfl

/-- A backend is read as if it had no members but the kind and its fields. -/
theorem ofJson_filter_known {members : Members} {kind : BackendKind}
    (found : findKind members = .ok (some kind)) :
    ofJson (.object (members.filter fun member => isKnown kind member.1)) =
      ofJson (.object members) := by
  have known : isKnown kind kindName = true := by simp [isKnown]
  have kinds : findKind (members.filter fun member => isKnown kind member.1) = .ok (some kind) :=
    (findKind_filter known members).trans found
  have commute : (members.filter fun member => isKnown kind member.1).filter
        (fun member => member.1 ≠ kindName) =
      (members.filter fun member => member.1 ≠ kindName).filter
        fun member => isKnown kind member.1 := by
    rw [List.filter_filter, List.filter_filter]
    exact List.filter_congr fun member _ => Bool.and_comm _ _
  rw [ofJson, ofJson, Json.bind_of_ok kinds, Json.bind_of_ok found]
  dsimp only
  rw [commute, readChoice_filter fun name => isKnown_of_mem]

end BackendConfig

/-! ## Settings -/

namespace Settings

/-- Settings are read alike when their backends are. -/
theorem ofJson_backend_eq {v w : Json} (same : BackendConfig.ofJson v = BackendConfig.ofJson w)
    (front back : Members) :
    Settings.ofJson (.object (front ++ ("backend", v) :: back)) =
      Settings.ofJson (.object (front ++ ("backend", w) :: back)) := by
  have checks : ∀ check, layout.check? "backend" = some check → check v = check w := by
    intro check field
    cases field
    exact congrArg discard same
  apply Json.record_bind_eq (Json.checkMembers_append_eq checks front back [])
  have apart : "backend" = "cache" → Config.ofJson v = Config.ofJson w :=
    fun impossible => absurd impossible (by decide)
  rw [Json.field?_append_eq apart, Json.field?_append_eq fun _ => same]
  rfl

/-- Among the members of settings there are fields alone. -/
theorem mem_names_of_ofJson {members : Members} {settings : Settings}
    (ok : Settings.ofJson (.object members) = .ok settings) :
    ∀ member ∈ members, member.1 ∈ layout.names := by
  obtain ⟨record, read, -⟩ := bind_eq_ok.1 ok
  exact Json.mem_names_of_record rfl read

/-- Among the members of a config there are fields alone, wherever it stands among the settings. -/
theorem mem_names_of_ofJson_cache {members cache : Members} {settings : Settings}
    (ok : Settings.ofJson (.object members) = .ok settings)
    (mem : ("cache", Json.object cache) ∈ members) :
    ∀ member ∈ cache, member.1 ∈ Config.layout.names := by
  obtain ⟨record, read, -⟩ := bind_eq_ok.1 ok
  -- The config was read when its field was checked, and by the layout that refuses other members.
  obtain ⟨⟨⟩, checked, -⟩ := bind_eq_ok.1 read
  obtain ⟨config, configRead, -⟩ := bind_eq_ok.1 (Json.check_of_checkMembers checked mem rfl)
  obtain ⟨inner, innerRead, -⟩ := bind_eq_ok.1 configRead
  exact Json.mem_names_of_record rfl innerRead

end Settings

/-! ## YAML text -/

namespace Yaml.Value

/-- The entries of a mapping. -/
def entries : Value → List (Value × Value)
  | mapping _ entries => entries
  | _ => []

/-- The names that the keys of a mapping write. -/
def names (v : Value) : List String := v.entries.filterMap fun entry => entry.1.scalarText.toOption

/-- Each entry of a record has the name of a field and is read as that field. -/
theorem exists_read_of_record {fields : List (String × (Value → Except Fault Json))} {v : Value}
    {document : Json} (ok : v.record fields = .ok document) :
    ∀ entry ∈ v.entries, ∃ name read value, entry.1.scalarText = .ok name ∧
      (name, read) ∈ fields ∧ read entry.2 = .ok value := by
  intro entry mem
  cases v with
  | mapping tag listed =>
    rw [record, bind_eq_ok] at ok
    obtain ⟨members, read, -⟩ := ok
    obtain ⟨member, one⟩ := exists_ok_of_mapM read entry mem
    obtain ⟨name, key, one⟩ := bind_eq_ok.1 one
    cases field : fields.lookup name with
    | none =>
      rw [field] at one
      cases one
    | some reader =>
      rw [field] at one
      obtain ⟨value, read, -⟩ := bind_eq_ok.1 one
      obtain ⟨front, back, listed, -⟩ := List.lookup_eq_some_iff.1 field
      exact ⟨name, reader, value, key, by simp [listed], read⟩
  | scalar => cases mem
  | sequence => cases mem

/-- The names of a record are those of fields. -/
theorem mem_of_record {fields : List (String × (Value → Except Fault Json))} {v : Value}
    {document : Json} (ok : v.record fields = .ok document) :
    ∀ name ∈ v.names, name ∈ fields.map (·.1) := by
  intro name mem
  obtain ⟨entry, there, key⟩ := List.mem_filterMap.1 mem
  obtain ⟨other, read, value, text, field, -⟩ := exists_read_of_record ok entry there
  rw [text] at key
  cases key
  exact List.mem_map_of_mem (f := (·.1)) field

end Yaml.Value

namespace Settings

open Yaml (Value)

theorem exists_record_of_readYaml {text : String} {settings : Settings} {v : Value}
    (ok : readYaml text = .ok settings) (read : Value.read text.toList = .ok v) :
    ∃ document, v.record yamlFields = .ok document := by
  rw [readYaml, Json.bind_of_ok read] at ok
  obtain ⟨document, record, -⟩ := bind_eq_ok.1 ok
  exact ⟨document, record⟩

/-- Among the names that a settings text writes there are fields alone. -/
theorem mem_names_of_readYaml {text : String} {settings : Settings} {v : Value}
    (ok : readYaml text = .ok settings) (read : Value.read text.toList = .ok v) :
    ∀ name ∈ v.names, name ∈ layout.names := by
  obtain ⟨document, record⟩ := exists_record_of_readYaml ok read
  exact Value.mem_of_record record

/-- Among the names in the config that a settings text writes there are fields alone. -/
theorem mem_names_of_readYaml_cache {text : String} {settings : Settings} {v : Value}
    (ok : readYaml text = .ok settings) (read : Value.read text.toList = .ok v)
    {entry : Value × Value} (there : entry ∈ v.entries) (key : entry.1.scalarText = .ok "cache") :
    ∀ name ∈ entry.2.names, name ∈ Config.layout.names := by
  obtain ⟨document, record⟩ := exists_record_of_readYaml ok read
  obtain ⟨name, reader, value, named, field, inner⟩ := Value.exists_read_of_record record entry there
  cases key.symm.trans named
  -- Of the two fields of settings the config is the one with this name.
  rcases List.mem_pair.1 field with same | same
  · cases same
    exact Value.mem_of_record inner
  · exact absurd (congrArg Prod.fst same) (show "cache" ≠ "backend" by decide)

/-- Settings and the config in them are refused when a member of theirs is none of their fields, as a
document and as YAML text. A backend passes over members that its kind does not have: settings are read as
if these members were not there. -/
theorem unknown_refused_but_in_backend (members : Members) (text : String) :
    ((∃ member ∈ members, member.1 ∉ layout.names) →
      ∃ fault, Settings.ofJson (.object members) = .error fault) ∧
    (∀ cache : Members, ("cache", Json.object cache) ∈ members →
      (∃ member ∈ cache, member.1 ∉ Config.layout.names) →
      ∃ fault, Settings.ofJson (.object members) = .error fault) ∧
    (∀ (front back backend : Members) (kind : BackendKind),
      members = front ++ ("backend", .object backend) :: back →
      BackendConfig.findKind backend = .ok (some kind) →
      Settings.ofJson (.object members) =
        Settings.ofJson (.object (front ++ ("backend", .object (backend.filter fun member =>
          BackendConfig.isKnown kind member.1)) :: back))) ∧
    ∀ v : Value, Value.read text.toList = .ok v →
      ((∃ name ∈ v.names, name ∉ layout.names) → ∃ fault, readYaml text = .error fault) ∧
      ((∃ entry ∈ v.entries, entry.1.scalarText = .ok "cache" ∧
        ∃ name ∈ entry.2.names, name ∉ Config.layout.names) →
        ∃ fault, readYaml text = .error fault) := by
  refine ⟨?_, ?_, ?_, ?_⟩
  · rintro ⟨member, mem, unknown⟩
    apply exists_error_of_forall_ne
    intro settings ok
    exact unknown (mem_names_of_ofJson ok member mem)
  · rintro cache there ⟨member, mem, unknown⟩
    apply exists_error_of_forall_ne
    intro settings ok
    exact unknown (mem_names_of_ofJson_cache ok there member mem)
  · rintro front back backend kind rfl found
    exact ofJson_backend_eq (BackendConfig.ofJson_filter_known found).symm front back
  · intro v read
    constructor
    · rintro ⟨name, mem, unknown⟩
      apply exists_error_of_forall_ne
      intro settings ok
      exact unknown (mem_names_of_readYaml ok read name mem)
    · rintro ⟨entry, there, key, name, mem, unknown⟩
      apply exists_error_of_forall_ne
      intro settings ok
      exact unknown (mem_names_of_readYaml_cache ok read there key name mem)

/-- A shared store with a misspelt prefix. -/
def misspeltBackend : Members :=
  [("key_prefx", .string "gateway:"), ("kind", .string "distributed"),
    ("url", .string "redis://localhost:6379")]

/-- Misspelt members of settings and of a config are refused, also in YAML text, and a misspelt prefix of
a store is passed over. -/
theorem unknown_refused_misspelt :
    (∃ fault, Settings.ofJson (.object [("cahce", .object [])]) = .error fault) ∧
    (∃ fault, Settings.ofJson (.object [("cache", .object [("tll", .ofNat 60)])]) = .error fault) ∧
    Settings.ofJson (.object [("backend", .object misspeltBackend)]) =
      Settings.ofJson (.object [("backend", .object [("kind", .string "distributed"),
        ("url", .string "redis://localhost:6379")])]) ∧
    (∃ fault, readYaml "cahce:\n  ttl: 60\n" = .error fault) ∧
    ∃ fault, readYaml "cache:\n  tll: 60\n" = .error fault := by
  obtain ⟨top, -, -, topText⟩ :=
    unknown_refused_but_in_backend [("cahce", .object [])] "cahce:\n  ttl: 60\n"
  obtain ⟨-, inCache, -, inCacheText⟩ := unknown_refused_but_in_backend
    [("cache", .object [("tll", .ofNat 60)])] "cache:\n  tll: 60\n"
  obtain ⟨-, -, inBackend, -⟩ :=
    unknown_refused_but_in_backend [("backend", .object misspeltBackend)] ""
  refine ⟨top ⟨_, List.mem_cons_self, by decide⟩,
    inCache _ List.mem_cons_self ⟨_, List.mem_cons_self, by decide⟩,
    inBackend [] [] misspeltBackend .shared rfl rfl, ?_, ?_⟩
  · have shown : (Value.read "cahce:\n  ttl: 60\n".toList).toOption.map Value.names =
        some ["cahce"] := by decide +kernel
    obtain ⟨v, read, names⟩ := Option.map_eq_some_iff.1 shown
    exact (topText v (eq_ok_of_toOption read)).1 ⟨"cahce", by simp [names], by decide⟩
  · have shown : (Value.read "cache:\n  tll: 60\n".toList).toOption.map
        (fun v => v.entries.map fun entry => (entry.1.scalarText.toOption, entry.2.names)) =
          some [(some "cache", ["tll"])] := by decide +kernel
    obtain ⟨v, read, entries⟩ := Option.map_eq_some_iff.1 shown
    obtain ⟨entry, rest, only, pair, -⟩ := List.map_eq_cons_iff.1 entries
    obtain ⟨key, names⟩ := Prod.mk.inj pair
    exact (inCacheText v (eq_ok_of_toOption read)).2 ⟨entry, by simp [only], eq_ok_of_toOption key,
      "tll", by simp [names], by decide⟩

/-- A store with a misspelt prefix is read, and has the default prefix. -/
theorem misspelt_prefix_read :
    (∃ member ∈ misspeltBackend, member.1 ≠ BackendConfig.kindName ∧
      member.1 ∉ (BackendConfig.layoutOf .shared).names) ∧
    Settings.ofJson (.object [("backend", .object misspeltBackend)]) =
      .ok ⟨Config.default, .shared ⟨"redis://localhost:6379", StoreConfig.defaultKeyPrefix,
        StoreConfig.defaultConnectTimeoutMillis⟩⟩ :=
  ⟨⟨_, List.mem_cons_self, by decide⟩, rfl⟩

end Settings

end CompletionCache
