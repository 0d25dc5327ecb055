import CompletionCache.Proofs.Settings.Build
import CompletionCache.Settings.Overrides

/-!
# What variables change

Settings with variables are valid, the same variables change nothing a second time, and each variable
changes its own setting only, to the value that it writes (`Settings.override_idempotent_and_local`). A
variable that selects the present kind of backend leaves the backend as it is, one that selects the other
kind starts it from its defaults (`Settings.Chosen`).
-/

set_option autoImplicit false

namespace CompletionCache

open Json (bind_eq_ok map_eq_ok mapError_eq_ok)

variable {lookup : String → Option String}

/-! ## One setting -/

namespace Settings

/-- A setting has the value that its variable writes, and stays as it was when the variable is not
set. -/
structure SetBy {α : Type} (lookup : String → Option String) (name : String)
    (read : String → Except OverrideFault α) (before after : α) : Prop where
  kept : lookup name = none → after = before
  given : ∀ text, lookup name = some text → read text = .ok after

section SetBy

variable {α : Type} {name : String} {read : String → Except OverrideFault α} {before after : α}

theorem SetBy.of_unset (unset : lookup name = none) : SetBy lookup name read before before := by
  refine ⟨fun _ => rfl, fun text set => ?_⟩
  cases unset.symm.trans set

theorem SetBy.of_set {text : String} (set : lookup name = some text) (ok : read text = .ok after) :
    SetBy lookup name read before after := by
  refine ⟨fun unset => ?_, fun other again => ?_⟩
  · cases unset.symm.trans set
  · cases set.symm.trans again
    exact ok

/-- What is taken of a variable: nothing when it is not set, else what its text is read as. -/
theorem taken_cases {given : Option α} (taken : (lookup name).mapM read = .ok given) :
    (lookup name = none ∧ given = none) ∨
      ∃ text value, lookup name = some text ∧ read text = .ok value ∧ given = some value := by
  cases set : lookup name with
  | none =>
    rw [set] at taken
    cases taken
    exact .inl ⟨rfl, rfl⟩
  | some text =>
    rw [set] at taken
    obtain ⟨value, ok, rfl⟩ := map_eq_ok.1 taken
    exact .inr ⟨text, value, rfl, ok, rfl⟩

theorem setBy_getD {given : Option α} (taken : (lookup name).mapM read = .ok given) :
    SetBy lookup name read before (given.getD before) := by
  rcases taken_cases taken with ⟨unset, rfl⟩ | ⟨text, value, set, ok, rfl⟩
  · exact .of_unset unset
  · exact .of_set set ok

theorem setBy_or {before given : Option α} (taken : (lookup name).mapM read = .ok given) :
    SetBy lookup name (fun text => some <$> read text) before (given.or before) := by
  rcases taken_cases taken with ⟨unset, rfl⟩ | ⟨text, value, set, ok, rfl⟩
  · exact .of_unset unset
  · exact .of_set set (map_eq_ok.2 ⟨value, ok, rfl⟩)

/-- Every text is a list of names. -/
theorem setBy_readNames {before : NameSet} :
    SetBy lookup name (fun text => .ok (readNames text)) before
      (((lookup name).map readNames).getD before) := by
  cases set : lookup name with
  | none => exact .of_unset set
  | some text => exact .of_set set rfl

/-- Every text is an address or a prefix. -/
theorem setBy_text {before : String} :
    SetBy lookup name .ok before ((lookup name).getD before) := by
  cases set : lookup name with
  | none => exact .of_unset set
  | some text => exact .of_set set rfl

end SetBy

end Settings

/-! ## What variables make of settings -/

/-- What variables make of a config: the similarity threshold stays, and each other field is set by its
own variable. -/
structure Config.ChangedBy (lookup : String → Option String) (config result : Config) : Prop where
  similarityThreshold : result.similarityThreshold = config.similarityThreshold
  ttl : Settings.SetBy lookup Settings.ttlName (Settings.readCount Settings.ttlName) config.ttl
    result.ttl
  maxSize : Settings.SetBy lookup Settings.maxSizeName
    (fun text => some <$> Settings.readCount Settings.maxSizeName text) config.maxSize result.maxSize
  enabled : Settings.SetBy lookup Settings.enabledName (Settings.readSwitch Settings.enabledName)
    config.enabled result.enabled
  cacheStreaming : Settings.SetBy lookup Settings.streamingName
    (Settings.readSwitch Settings.streamingName) config.cacheStreaming result.cacheStreaming
  excludedModels : Settings.SetBy lookup Settings.excludedName
    (fun text => .ok (Settings.readNames text)) config.excludedModels result.excludedModels

/-- What variables make of a backend of one kind: the cleanup interval or the timeout stays, and the
address and the prefix of a store are set by their own variables. -/
inductive BackendConfig.ChangedBy (lookup : String → Option String) :
    BackendConfig → BackendConfig → Prop
  | inProcess (cleanupSeconds : UInt64) :
      ChangedBy lookup (.inProcess cleanupSeconds) (.inProcess cleanupSeconds)
  | shared {store result : StoreConfig}
      (connectTimeoutMillis : result.connectTimeoutMillis = store.connectTimeoutMillis)
      (url : Settings.SetBy lookup Settings.urlName .ok store.url result.url)
      (keyPrefix : Settings.SetBy lookup Settings.keyPrefixName .ok store.keyPrefix
        result.keyPrefix) :
      ChangedBy lookup (.shared store) (.shared result)

namespace Settings

/-- The backends that variables choose: the present one, unless another kind is named, or one of the
other kind with its defaults. -/
inductive Chosen (lookup : String → Option String) (backend : BackendConfig) : BackendConfig → Prop
  | present (named : ∀ name, (lookup backendName).map trimmed = some name →
      name = backend.kind.name) : Chosen lookup backend backend
  | inProcess (other : backend.kind ≠ .inProcess)
      (named : (lookup backendName).map trimmed = some BackendKind.inProcess.name) :
      Chosen lookup backend BackendConfig.default
  | shared {url : String} (other : backend.kind ≠ .shared)
      (named : (lookup backendName).map trimmed = some BackendKind.shared.name)
      (address : lookup urlName = some url) : Chosen lookup backend (.shared (.ofUrl url))

/-- Settings differ from earlier ones only where variables say so, and as they say. -/
structure ChangedBy (lookup : String → Option String) (settings result : Settings) : Prop where
  cache : Config.ChangedBy lookup settings.cache result.cache
  named : ∀ text, lookup backendName = some text → trimmed text = result.backend.kind.name
  backend : ∃ chosen, Chosen lookup settings.backend chosen ∧
    BackendConfig.ChangedBy lookup chosen result.backend
  sameKind : result.backend.kind = settings.backend.kind →
    BackendConfig.ChangedBy lookup settings.backend result.backend

/-! ## The config -/

variable {config result : Config}

theorem getD_getD {α : Type} (given : Option α) (value : α) :
    given.getD (given.getD value) = given.getD value := by
  rw [← Option.getD_or, Option.or_self]

theorem overrideConfig_eq_ok_iff :
    overrideConfig lookup config = .ok result ↔
      ∃ enabled, (lookup enabledName).mapM (readSwitch enabledName) = .ok enabled ∧
      ∃ ttl, (lookup ttlName).mapM (readCount ttlName) = .ok ttl ∧
      ∃ maxSize, (lookup maxSizeName).mapM (readCount maxSizeName) = .ok maxSize ∧
      ∃ streaming, (lookup streamingName).mapM (readSwitch streamingName) = .ok streaming ∧
      ⟨ttl.getD config.ttl, maxSize.or config.maxSize, config.similarityThreshold,
        enabled.getD config.enabled, streaming.getD config.cacheStreaming,
        ((lookup excludedName).map readNames).getD config.excludedModels⟩ = result := by
  simp only [overrideConfig, bind_eq_ok, pure, Except.pure, Except.ok.injEq]

theorem overrideConfig_idem (overridden : overrideConfig lookup config = .ok result) :
    overrideConfig lookup result = .ok result := by
  obtain ⟨enabled, first, ttl, second, maxSize, third, streaming, fourth, rfl⟩ :=
    overrideConfig_eq_ok_iff.1 overridden
  -- The same values are given again, and each of them covers what it gave before.
  refine overrideConfig_eq_ok_iff.2
    ⟨enabled, first, ttl, second, maxSize, third, streaming, fourth, ?_⟩
  simp only [getD_getD, ← Option.or_assoc, Option.or_self]

theorem changedBy_of_overrideConfig (overridden : overrideConfig lookup config = .ok result) :
    Config.ChangedBy lookup config result := by
  obtain ⟨enabled, first, ttl, second, maxSize, third, streaming, fourth, rfl⟩ :=
    overrideConfig_eq_ok_iff.1 overridden
  exact {
    similarityThreshold := rfl
    ttl := setBy_getD second
    maxSize := setBy_or third
    enabled := setBy_getD first
    cacheStreaming := setBy_getD fourth
    excludedModels := setBy_readNames }

/-! ## The backend -/

variable {backend chosen : BackendConfig}

theorem Chosen.of_named (named : (lookup backendName).map trimmed = some backend.kind.name) :
    Chosen lookup backend backend := by
  refine .present fun name again => ?_
  exact Option.some.inj (again.symm.trans named)

theorem chosen_of_selectBackend (selected : selectBackend lookup backend = .ok chosen) :
    Chosen lookup backend chosen := by
  unfold selectBackend at selected
  split at selected
  case h_1 unset =>
    cases selected
    refine .present fun name named => ?_
    rw [unset] at named
    cases named
  case h_2 name named =>
    -- The present backend is of the kind that is named, or it is not.
    split_ifs at selected with isLocal kind isShared kind
    · cases selected
      exact .of_named (by rw [named, isLocal, kind])
    · cases selected
      exact .inProcess kind (by rw [named, isLocal])
    · cases selected
      exact .of_named (by rw [named, isShared, kind])
    · split at selected
      case h_1 url address =>
        cases selected
        exact .shared kind (by rw [named, isShared]) address
      case h_2 => cases selected

theorem selectBackend_of_chosen (choice : Chosen lookup backend chosen) :
    selectBackend lookup backend = .ok chosen := by
  unfold selectBackend
  cases choice with
  | present named =>
    cases set : (lookup backendName).map trimmed with
    | none => rfl
    | some name =>
      obtain rfl := named name set
      cases backend <;> rfl
  | inProcess other named =>
    rw [named]
    simp only [if_true, if_neg other]
  | shared other named address =>
    have differ : BackendKind.shared.name ≠ BackendKind.inProcess.name := by decide
    rw [named]
    simp only [if_neg differ, if_true, if_neg other, address]

theorem selectBackend_eq_ok_iff :
    selectBackend lookup backend = .ok chosen ↔ Chosen lookup backend chosen :=
  ⟨chosen_of_selectBackend, selectBackend_of_chosen⟩

namespace Chosen

/-- What is chosen is of the kind that is named. -/
theorem names_kind (choice : Chosen lookup backend chosen) {name : String}
    (named : (lookup backendName).map trimmed = some name) : name = chosen.kind.name := by
  cases choice with
  | present same => exact same name named
  | inProcess _ same => exact Option.some.inj (named.symm.trans same)
  | shared _ same _ => exact Option.some.inj (named.symm.trans same)

/-- A backend of the present kind is the present one. -/
theorem eq_of_kind_eq (choice : Chosen lookup backend chosen) (same : chosen.kind = backend.kind) :
    chosen = backend := by
  cases choice with
  | present _ => rfl
  | inProcess other _ => exact absurd same.symm other
  | shared other _ _ => exact absurd same.symm other

end Chosen

@[simp]
theorem kind_overrideStore : (overrideStore lookup backend).kind = backend.kind := by
  cases backend <;> rfl

theorem overrideStore_idem :
    overrideStore lookup (overrideStore lookup backend) = overrideStore lookup backend := by
  cases backend with
  | inProcess cleanupSeconds => rfl
  | shared store => simp only [overrideStore, getD_getD]

theorem changedBy_overrideStore :
    BackendConfig.ChangedBy lookup backend (overrideStore lookup backend) := by
  cases backend with
  | inProcess cleanupSeconds => exact .inProcess cleanupSeconds
  | shared store => exact .shared rfl setBy_text setBy_text

/-- What is chosen and overridden is chosen again. -/
theorem Chosen.overridden (choice : Chosen lookup backend chosen) :
    Chosen lookup (overrideStore lookup chosen) (overrideStore lookup chosen) := by
  refine .present fun name named => ?_
  rw [kind_overrideStore]
  exact choice.names_kind named

/-! ## Settings -/

variable {settings result : Settings}

theorem override_eq_ok_iff :
    settings.override lookup = .ok result ↔
      overrideConfig lookup settings.cache = .ok result.cache ∧
        (∃ chosen, Chosen lookup settings.backend chosen ∧
          overrideStore lookup chosen = result.backend) ∧
        result.validate = .ok () := by
  constructor
  · intro overridden
    obtain ⟨cache, config, overridden⟩ := bind_eq_ok.1 overridden
    obtain ⟨chosen, selected, overridden⟩ := bind_eq_ok.1 overridden
    obtain ⟨⟨⟩, valid, overridden⟩ := bind_eq_ok.1 overridden
    cases overridden
    exact ⟨mapError_eq_ok.1 config,
      ⟨chosen, selectBackend_eq_ok_iff.1 (mapError_eq_ok.1 selected), rfl⟩, valid⟩
  · obtain ⟨cache, backend⟩ := result
    rintro ⟨config, ⟨chosen, choice, rfl⟩, valid⟩
    exact bind_eq_ok.2 ⟨cache, mapError_eq_ok.2 config, bind_eq_ok.2
      ⟨chosen, mapError_eq_ok.2 (selectBackend_eq_ok_iff.2 choice),
        bind_eq_ok.2 ⟨(), valid, rfl⟩⟩⟩

theorem override_idem (overridden : settings.override lookup = .ok result) :
    result.override lookup = .ok result := by
  obtain ⟨config, ⟨chosen, choice, store⟩, valid⟩ := override_eq_ok_iff.1 overridden
  refine override_eq_ok_iff.2 ⟨overrideConfig_idem config, ⟨result.backend, ?_, ?_⟩, valid⟩
  · rw [← store]
    exact choice.overridden
  · rw [← store, overrideStore_idem]

theorem changedBy_of_override (overridden : settings.override lookup = .ok result) :
    ChangedBy lookup settings result := by
  obtain ⟨config, ⟨chosen, choice, store⟩, -⟩ := override_eq_ok_iff.1 overridden
  -- An address and a prefix do not change the kind.
  have kind : result.backend.kind = chosen.kind := by rw [← store, kind_overrideStore]
  have backend : BackendConfig.ChangedBy lookup chosen result.backend :=
    store ▸ changedBy_overrideStore
  constructor
  case cache => exact changedBy_of_overrideConfig config
  case named =>
    intro text set
    rw [kind]
    exact choice.names_kind (by rw [set, Option.map_some])
  case backend => exact ⟨chosen, choice, backend⟩
  case sameKind =>
    intro same
    exact choice.eq_of_kind_eq (kind.symm.trans same) ▸ backend

/-- Settings with variables are valid, the same variables change nothing a second time, and what has
changed is what variables say. The settings before need not be valid. -/
theorem override_idempotent_and_local (overridden : settings.override lookup = .ok result) :
    result.validate = .ok () ∧ result.override lookup = .ok result ∧
      ChangedBy lookup settings result :=
  ⟨(override_eq_ok_iff.1 overridden).2.2, override_idem overridden,
    changedBy_of_override overridden⟩

/-- Settings that are not valid: entries have no lifetime, and the address of the store cannot be
read. -/
def unfinished : Settings :=
  ⟨{ Config.default with ttl := 0, excludedModels := .ofList ["beta"] }, .shared ⟨"", "old:", 250⟩⟩

/-- Variables for a lifetime, for the present kind of backend and for an address. -/
def finishing (name : String) : Option String :=
  if name = ttlName then some " 60 "
  else if name = backendName then some "distributed "
  else if name = urlName then some "redis://cache/0"
  else none

/-- The settings with these variables: the prefix and the timeout of the store have stayed. -/
def finished : Settings :=
  ⟨{ Config.default with ttl := 60, excludedModels := .ofList ["beta"] },
    .shared ⟨"redis://cache/0", "old:", 250⟩⟩

theorem override_finishing :
    unfinished.override finishing = .ok finished ∧ finished.validate = .ok () ∧
      finished.override finishing = .ok finished ∧ ChangedBy finishing unfinished finished := by
  have overridden : unfinished.override finishing = .ok finished := by rfl
  exact ⟨overridden, override_idempotent_and_local overridden⟩

end Settings

end CompletionCache
