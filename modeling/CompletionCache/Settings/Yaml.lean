import CompletionCache.Settings.Basic
import CompletionCache.Yaml.Value

/-!
# Settings from YAML text

`Settings.ofYaml` reads settings from the text of a file. The members of the config are read as what
their places want; a backend is read by the form of its scalars. What results is read as a document
and has to be valid.
-/

set_option autoImplicit false

namespace CompletionCache

open Yaml (Value)

/-- How the members of a config are written. -/
def Config.yamlFields : List (String × (Value → Except Yaml.Fault Json)) :=
  [("ttl", Value.whole), ("max_size", Value.optional Value.whole),
    ("similarity_threshold", Value.real), ("enabled", Value.switch),
    ("cache_streaming", Value.switch), ("excluded_models", Value.list Value.text)]

namespace BackendConfig

/-- The kind that a scalar names. -/
def yamlKind (v : Value) : Except Yaml.Fault BackendKind := do
  match readKind (.string (← v.scalarText)) with
  | .ok kind => return kind
  | .error _ => throw .shape

/-- The fields of a choice, in their order. -/
def layoutOf : BackendKind → Json.Layout
  | .inProcess => inProcessLayout
  | .shared => StoreConfig.layout

/-- The name of a member beside the kind: a text, or the place of a field, for which there is none
if it lies behind the last field. -/
def yamlMember (names : List String) : Json × Json → Except Yaml.Fault Members
  | (.string name, value) => .ok [(name, value)]
  | (.number (.integer place), value) =>
    if place < 0 then .error .shape
    else .ok ((names[place.toNat]?).map fun name => (name, value)).toList
  | _ => .error .shape

/-- The kind among the entries of a mapping, where it has to stand once, and the other members by
their form. -/
def yamlChoice : List (Value × Value) →
    Except Yaml.Fault (Option BackendKind × List (Json × Json))
  | [] => .ok (none, [])
  | (key, value) :: rest => do
    let name ← key.plain
    if name = .string kindName then
      let kind ← yamlKind value
      let (other, members) ← yamlChoice rest
      if other.isSome then throw .shape
      return (some kind, members)
    else
      let member := (name, ← value.plain)
      let (kind, members) ← yamlChoice rest
      return (kind, member :: members)

/-- The choice that a value writes. -/
def ofYaml (v : Value) : Except Yaml.Fault BackendConfig := do
  let (kind, document) ← match v with
    | .mapping tag entries => do
      if Value.isOwnTag tag then throw .shape
      let (some kind, members) ← yamlChoice entries
        | throw .shape
      let named ← members.mapM (yamlMember (layoutOf kind).names)
      pure (kind, Json.object named.flatten)
    | .sequence tag (first :: rest) => do
      if Value.isOwnTag tag then throw .shape
      pure (← yamlKind first, Json.array (← Value.plainItems rest))
    | _ => throw .shape
  match readChoice kind document with
  | .ok backend => return backend
  | .error _ => throw .shape

end BackendConfig

namespace Settings

/-- How the members of settings are written. -/
def yamlFields : List (String × (Value → Except Yaml.Fault Json)) :=
  [("cache", Value.record Config.yamlFields),
    ("backend", fun v => BackendConfig.toJson <$> BackendConfig.ofYaml v)]

/-- The settings that a YAML text writes, valid or not. -/
def readYaml (text : String) : Except Yaml.Fault Settings := do
  let document ← (← Value.read text.toList).record yamlFields
  match Settings.ofJson document with
  | .ok settings => return settings
  | .error _ => throw .shape

/-- The settings that a YAML text writes, if they are valid. -/
def ofYaml (text : String) : Result Settings := do
  match readYaml text with
  | .error _ => throw .yaml
  | .ok settings =>
    settings.validate
    return settings

/-- The settings in a file. -/
def ofYamlFile (file : FileContent) : Result Settings := do
  ofYaml (← file.text.mapError Error.file)

end Settings

end CompletionCache
