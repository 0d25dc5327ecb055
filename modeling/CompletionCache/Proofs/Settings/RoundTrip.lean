import CompletionCache.Proofs.Config.Names
import CompletionCache.Proofs.Request.RoundTrip
import CompletionCache.Proofs.Settings.Build
import CompletionCache.Proofs.Settings.Unknown

/-!
# Settings written and read again

A document is written with its members in the order of the fields and kept with its members sorted. Both
arrange the same members (`Json.Arranges`), and a config and a backend are read from any arrangement of
theirs (`Config.ofJson_of_arranges`, `BackendConfig.ofJson_of_arranges`). Hence valid settings are read
back from their document in either form (`Settings.valid_read_back_from_document`): a valid threshold is
finite, so that it is not written as null, and excluded models in order are their own set.
-/

set_option autoImplicit false

namespace CompletionCache

open Json (find? normalizeMembers sortMembers)

/-! ## Arrangements of members -/

namespace Json

/-- Some members in an order of their own: each name stands once and finds what it did. -/
structure Arranges (members arranged : Members) : Prop where
  nodup : (arranged.map (·.1)).Nodup
  find?_eq : ∀ name, find? name arranged = find? name members

theorem Arranges.refl {members : Members} (nodup : (members.map (·.1)).Nodup) :
    Arranges members members :=
  ⟨nodup, fun _ => rfl⟩

theorem Arranges.sorted {members : Members} (nodup : (members.map (·.1)).Nodup) :
    Arranges members (sortMembers members) :=
  ⟨nodup_names (ascending_sortMembers members), find?_sortMembers_of_nodup nodup⟩

/-- The normal form of an object arranges its members when each value is in normal form. -/
theorem Arranges.normalForm {members : Members} (nodup : (members.map (·.1)).Nodup)
    (normal : ∀ member ∈ members, member.2.normalize = member.2) :
    Arranges members (sortMembers (normalizeMembers members)) := by
  rw [normalizeMembers_eq_self normal]
  exact .sorted nodup

/-- The names of an arrangement are names of the members. -/
theorem Arranges.mem_names {members arranged : Members} (arranges : Arranges members arranged)
    {member : String × Json} (mem : member ∈ arranged) : member.1 ∈ members.map (·.1) := by
  have found := (arranges.find?_eq member.1).symm.trans (find?_of_mem arranges.nodup mem)
  exact List.mem_map_of_mem (f := (·.1)) (mem_of_find? found)

/-! ## Values -/

variable {α : Type}

theorem readSize_ofNat (n : UInt64) : readSize (ofNat n.toNat) = .ok n := by
  refine bind_eq_ok.2 ⟨n.toNat, readBelow_eq_ok_iff.2 ⟨rfl, n.toNat_lt⟩, ?_⟩
  exact congrArg Except.ok UInt64.ofNat_toNat

/-- A value that is null when it is absent is read back. -/
theorem readOption_ofOption {read : Json → Except Mismatch α} {write : α → Json}
    (notNull : ∀ a, write a ≠ null) (back : ∀ a, read (write a) = .ok a) (value : Option α) :
    readOption read (ofOption write value) = .ok value := by
  rw [readOption_eq_ok]
  cases value with
  | none => exact .inl ⟨rfl, rfl⟩
  | some a => exact .inr ⟨notNull a, a, back a, rfl⟩

end Json

theorem Binary64.isFinite_of_isInUnitInterval {x : Binary64} (within : x.isInUnitInterval = true) :
    x.isFinite = true := by
  rw [isInUnitInterval, Bool.or_eq_true, Bool.and_eq_true, beq_iff_eq, decide_eq_true_eq] at within
  rw [isFinite, decide_eq_true_eq]
  have unit : one.magnitude < infinityMagnitude := by decide
  rcases within with zero | ⟨-, below⟩
  · rw [zero]
    exact Nat.zero_lt_of_lt unit
  · exact Nat.lt_of_le_of_lt below unit

/-! ## Configs -/

namespace Config

variable {config : Config}

/-- The members of the document of a config. -/
def members (config : Config) : Members :=
  [("ttl", .ofNat config.ttl.toNat),
    ("max_size", Json.ofOption (fun n => .ofNat n.toNat) config.maxSize),
    ("similarity_threshold", .ofBinary64 config.similarityThreshold),
    ("enabled", .bool config.enabled),
    ("cache_streaming", .bool config.cacheStreaming),
    ("excluded_models", .array (config.excludedModels.names.map .string))]

theorem names_members (config : Config) : config.members.map (·.1) = layout.names := rfl

theorem nodup_members (config : Config) : (config.members.map (·.1)).Nodup :=
  show layout.names.Nodup by decide

theorem normal_members (config : Config) :
    ∀ member ∈ config.members, member.2.normalize = member.2 := by
  have maxSize : (Json.ofOption (fun n => .ofNat n.toNat) config.maxSize).normalize =
      Json.ofOption (fun n => .ofNat n.toNat) config.maxSize := by
    cases config.maxSize <;> rfl
  have threshold : (Json.ofBinary64 config.similarityThreshold).normalize =
      .ofBinary64 config.similarityThreshold := by
    rw [Json.ofBinary64]
    split_ifs <;> rfl
  have names : Json.normalizeItems (config.excludedModels.names.map .string) =
      config.excludedModels.names.map .string := by
    rw [Json.normalizeItems_eq_map, List.map_map]
    rfl
  intro member mem
  simp only [members, List.mem_cons, List.not_mem_nil, or_false] at mem
  rcases mem with rfl | rfl | rfl | rfl | rfl | rfl
  · rfl
  · exact maxSize
  · exact threshold
  · rfl
  · rfl
  · exact congrArg Json.array names

theorem isFinite_of_validate (valid : config.validate = .ok ()) :
    config.similarityThreshold.isFinite = true := by
  apply Binary64.isFinite_of_isInUnitInterval
  by_contra outside
  rw [validate, fault?, if_neg outside] at valid
  split_ifs at valid

/-- A config is read back from any arrangement of its members. -/
theorem ofJson_of_arranges (finite : config.similarityThreshold.isFinite = true)
    {arranged : Members} (arranges : Json.Arranges config.members arranged) :
    ofJson (.object arranged) = .ok config := by
  -- Only a finite number has a document other than null.
  have threshold : Json.ofBinary64 config.similarityThreshold =
      .number (.real config.similarityThreshold) := if_pos finite
  have ttl : Json.Record.field? ⟨layout, arranged, none⟩ "ttl" Json.readUInt64 =
      .ok (some config.ttl) :=
    Json.field?_of_find? (arranges.find?_eq "ttl") (Json.readUInt64_eq_ok_iff.2 rfl)
  have maxSize : Json.Record.field? ⟨layout, arranged, none⟩ "max_size"
      (Json.readOption Json.readSize) = .ok (some config.maxSize) :=
    Json.field?_of_find? (arranges.find?_eq "max_size")
      (Json.readOption_ofOption nofun Json.readSize_ofNat config.maxSize)
  have similarity : Json.Record.field? ⟨layout, arranged, none⟩ "similarity_threshold"
      Json.readBinary64 = .ok (some config.similarityThreshold) :=
    Json.field?_of_find? (arranges.find?_eq "similarity_threshold") (congrArg Json.readBinary64 threshold)
  have enabled : Json.Record.field? ⟨layout, arranged, none⟩ "enabled" Json.readBool =
      .ok (some config.enabled) :=
    Json.field?_of_find? (arranges.find?_eq "enabled") rfl
  have streaming : Json.Record.field? ⟨layout, arranged, none⟩ "cache_streaming" Json.readBool =
      .ok (some config.cacheStreaming) :=
    Json.field?_of_find? (arranges.find?_eq "cache_streaming") rfl
  have excluded : Json.Record.field? ⟨layout, arranged, none⟩ "excluded_models"
      (Json.readList Json.readText) = .ok (some config.excludedModels.names) :=
    Json.field?_of_find? (arranges.find?_eq "excluded_models") (Json.readList_map fun _ _ => rfl)
  have record : layout.record (.object arranged) = .ok ⟨layout, arranged, none⟩ := by
    apply Json.record_of_fields (fun _ mem => config.names_members ▸ arranges.mem_names mem)
      arranges.nodup
    intro field mem
    simp only [layout, List.mem_cons, List.not_mem_nil, or_false] at mem
    rcases mem with rfl | rfl | rfl | rfl | rfl | rfl
    · exact Json.passes_of_field? ttl
    · exact Json.passes_of_field? maxSize
    · exact Json.passes_of_field? similarity
    · exact Json.passes_of_field? enabled
    · exact Json.passes_of_field? streaming
    · exact Json.passes_of_field? excluded
  rw [ofJson, Json.bind_of_ok record, Json.bind_of_ok ttl, Json.bind_of_ok maxSize,
    Json.bind_of_ok similarity, Json.bind_of_ok enabled, Json.bind_of_ok streaming,
    Json.bind_of_ok excluded]
  exact congrArg (fun names => Except.ok { config with excludedModels := names })
    config.excludedModels.ofList_names

end Config

/-! ## Backends -/

namespace BackendConfig

/-- Members without a kind have none. -/
theorem findKind_of_absent {members : Members} (absent : find? kindName members = none) :
    findKind members = .ok none := by
  induction members with
  | nil => rfl
  | cons member members ih =>
    obtain ⟨name, value⟩ := member
    rw [find?] at absent
    split_ifs at absent with here
    rw [findKind, if_neg here, ih absent]

/-- Where names are distinct the kind is what stands under its name. -/
theorem findKind_of_find? {members : Members} (nodup : (members.map (·.1)).Nodup) {v : Json}
    {kind : BackendKind} (found : find? kindName members = some v) (read : readKind v = .ok kind) :
    findKind members = .ok (some kind) := by
  induction members with
  | nil => cases found
  | cons member members ih =>
    obtain ⟨name, value⟩ := member
    obtain ⟨fresh, nodup⟩ := List.nodup_cons.1 nodup
    rw [find?] at found
    split_ifs at found with here
    · cases found
      -- The kind is not named a second time.
      have absent : find? kindName members = none := by
        rw [Json.find?_eq_none_iff]
        intro member mem same
        exact fresh (here ▸ same ▸ List.mem_map_of_mem (f := (·.1)) mem)
      rw [findKind, if_pos here, Json.bind_of_ok read, Json.bind_of_ok (findKind_of_absent absent)]
      rfl
    · rw [findKind, if_neg here, ih nodup found]

theorem kindName_notMem_names (kind : BackendKind) : kindName ∉ (layoutOf kind).names := by
  cases kind <;> decide

theorem readKind_name (kind : BackendKind) : readKind (.string kind.name) = .ok kind := by
  cases kind <;> rfl

variable {backend : BackendConfig}

/-- The members of the document of a backend. -/
def members (backend : BackendConfig) : Members :=
  (kindName, .string backend.kind.name) ::
    match backend with
    | inProcess cleanupSeconds => [("cleanup_interval_secs", .ofNat cleanupSeconds.toNat)]
    | shared store => store.members

theorem nodup_members (backend : BackendConfig) : (backend.members.map (·.1)).Nodup := by
  cases backend with
  | inProcess cleanupSeconds =>
    change [kindName, "cleanup_interval_secs"].Nodup
    decide
  | shared store =>
    change [kindName, "url", "key_prefix", "connect_timeout_ms"].Nodup
    decide

theorem normal_members (backend : BackendConfig) :
    ∀ member ∈ backend.members, member.2.normalize = member.2 := by
  cases backend with
  | inProcess cleanupSeconds => simp [members, Json.ofNat, Json.normalize]
  | shared store => simp [members, StoreConfig.members, Json.ofNat, Json.normalize]

theorem readChoice_inProcess {seconds : UInt64} {members : Members}
    (nodup : (members.map (·.1)).Nodup)
    (found : find? "cleanup_interval_secs" members = some (.ofNat seconds.toNat)) :
    readChoice .inProcess (.object members) = .ok (inProcess seconds) := by
  have cleanup : Json.Record.field? ⟨inProcessLayout, members, none⟩ "cleanup_interval_secs"
      Json.readUInt64 = .ok (some seconds) :=
    Json.field?_of_find? found (Json.readUInt64_eq_ok_iff.2 rfl)
  have record : inProcessLayout.record (.object members) = .ok ⟨inProcessLayout, members, none⟩ := by
    apply Json.record_of_passes (by decide) nodup
    intro field mem
    obtain rfl := List.mem_singleton.1 mem
    exact Json.passes_of_field? cleanup
  rw [readChoice, Json.bind_of_ok record, Json.bind_of_ok cleanup]
  rfl

theorem readChoice_shared {store : StoreConfig} {members : Members}
    (nodup : (members.map (·.1)).Nodup)
    (found : ∀ name ∈ StoreConfig.layout.names, find? name members = find? name store.members) :
    readChoice .shared (.object members) = .ok (shared store) := by
  have url : Json.Record.field ⟨StoreConfig.layout, members, none⟩ "url" Json.readText =
      .ok store.url := Json.field_of_find? (found "url" (by decide)) rfl
  have keyPrefix : Json.Record.field? ⟨StoreConfig.layout, members, none⟩ "key_prefix"
      Json.readText = .ok (some store.keyPrefix) :=
    Json.field?_of_find? (found "key_prefix" (by decide)) rfl
  have timeout : Json.Record.field? ⟨StoreConfig.layout, members, none⟩ "connect_timeout_ms"
      Json.readUInt64 = .ok (some store.connectTimeoutMillis) :=
    Json.field?_of_find? (found "connect_timeout_ms" (by decide)) (Json.readUInt64_eq_ok_iff.2 rfl)
  have record : StoreConfig.layout.record (.object members) =
      .ok ⟨StoreConfig.layout, members, none⟩ := by
    apply Json.record_of_passes (by decide) nodup
    intro field mem
    simp only [StoreConfig.layout, List.mem_cons, List.not_mem_nil, or_false] at mem
    rcases mem with rfl | rfl | rfl
    · exact Json.passes_of_field url
    · exact Json.passes_of_field? keyPrefix
    · exact Json.passes_of_field? timeout
  have fields : StoreConfig.ofRecord ⟨StoreConfig.layout, members, none⟩ = .ok store := by
    rw [StoreConfig.ofRecord, Json.bind_of_ok url, Json.bind_of_ok keyPrefix, Json.bind_of_ok timeout]
    rfl
  rw [readChoice, Json.bind_of_ok record, Json.bind_of_ok fields]
  rfl

/-- A backend is read back from any arrangement of its members. -/
theorem ofJson_of_arranges {arranged : Members}
    (arranges : Json.Arranges backend.members arranged) :
    ofJson (.object arranged) = .ok backend := by
  have kind : findKind arranged = .ok (some backend.kind) :=
    findKind_of_find? arranges.nodup (arranges.find?_eq kindName) (readKind_name backend.kind)
  -- The kind is taken out of the members, and the fields of the choice are still found.
  have apart : ∀ name ∈ (layoutOf backend.kind).names, decide (name ≠ kindName) = true :=
    fun name field => decide_eq_true fun same => kindName_notMem_names _ (same ▸ field)
  rw [ofJson, Json.bind_of_ok kind]
  refine (readChoice_filter apart arranged).trans ?_
  cases backend with
  | inProcess seconds =>
    exact readChoice_inProcess arranges.nodup (arranges.find?_eq "cleanup_interval_secs")
  | shared store =>
    refine readChoice_shared arranges.nodup fun name field => (arranges.find?_eq name).trans ?_
    rw [members, find?, if_neg]
    exact fun same => kindName_notMem_names .shared (same ▸ field)

end BackendConfig

/-! ## Settings -/

namespace Settings

variable {settings : Settings}

/-- Settings are read from any arrangement of their two parts. -/
theorem ofJson_of_arranges {cache backend : Json} (cacheRead : Config.ofJson cache = .ok settings.cache)
    (backendRead : BackendConfig.ofJson backend = .ok settings.backend) {arranged : Members}
    (arranges : Json.Arranges [("cache", cache), ("backend", backend)] arranged) :
    ofJson (.object arranged) = .ok settings := by
  have cacheField : Json.Record.field? ⟨layout, arranged, none⟩ "cache" Config.ofJson =
      .ok (some settings.cache) := Json.field?_of_find? (arranges.find?_eq "cache") cacheRead
  have backendField : Json.Record.field? ⟨layout, arranged, none⟩ "backend" BackendConfig.ofJson =
      .ok (some settings.backend) := Json.field?_of_find? (arranges.find?_eq "backend") backendRead
  have record : layout.record (.object arranged) = .ok ⟨layout, arranged, none⟩ := by
    have names : [("cache", cache), ("backend", backend)].map (·.1) = layout.names := rfl
    apply Json.record_of_fields (fun _ mem => names ▸ arranges.mem_names mem) arranges.nodup
    intro field mem
    rcases List.mem_pair.1 mem with rfl | rfl
    · exact Json.passes_of_field? cacheField
    · exact Json.passes_of_field? backendField
  rw [ofJson, Json.bind_of_ok record, Json.bind_of_ok cacheField, Json.bind_of_ok backendField]
  rfl

/-- Valid settings are read back from their document, with its members in the order of the fields or
sorted. -/
theorem valid_read_back_from_document (valid : settings.validate = .ok ()) :
    ofJson settings.toJson = .ok settings ∧ ofJson settings.toJson.normalize = .ok settings := by
  have finite := Config.isFinite_of_validate (validate_eq_ok_iff.1 valid).1
  have cacheNodup := settings.cache.nodup_members
  have backendNodup := settings.backend.nodup_members
  have parts : ["cache", "backend"].Nodup := by decide
  constructor
  · exact ofJson_of_arranges (Config.ofJson_of_arranges finite (.refl cacheNodup))
      (BackendConfig.ofJson_of_arranges (.refl backendNodup)) (.refl parts)
  · exact ofJson_of_arranges
      (Config.ofJson_of_arranges finite (.normalForm cacheNodup settings.cache.normal_members))
      (BackendConfig.ofJson_of_arranges (.normalForm backendNodup settings.backend.normal_members))
      (.sorted parts)

/-- Settings of a store with the greatest numbers that they can have. -/
def greatest : Settings where
  cache := ⟨Config.maxTtl, some 0xFFFFFFFFFFFFFFFF, .one, false, true,
    .ofList ["beta", "alpha", "beta"]⟩
  backend := .shared ⟨"redis://localhost:6379/1", "", 0xFFFFFFFFFFFFFFFF⟩

/-- Settings of entries in process without a capacity. -/
def unbounded : Settings := ⟨Config.default, .inProcess 0xFFFFFFFFFFFFFFFF⟩

/-- Both settings are read back. -/
theorem valid_read_back_greatest :
    ofJson greatest.toJson = .ok greatest ∧ ofJson greatest.toJson.normalize = .ok greatest ∧
    ofJson unbounded.toJson = .ok unbounded ∧ ofJson unbounded.toJson.normalize = .ok unbounded := by
  have valid : greatest.validate = .ok () := rfl
  have valid' : unbounded.validate = .ok () := rfl
  obtain ⟨written, sorted⟩ := valid_read_back_from_document valid
  obtain ⟨written', sorted'⟩ := valid_read_back_from_document valid'
  exact ⟨written, sorted, written', sorted'⟩

end Settings

end CompletionCache
