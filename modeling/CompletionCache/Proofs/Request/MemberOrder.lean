import CompletionCache.Proofs.Json.MemberOrder
import CompletionCache.Proofs.Request.CanonicalText

/-!
# The order of members leaves no trace in the canonical text

The documents inside a request (the contents of messages, further members, parameters of functions, the
format of the response) may list their members in any order. Requests that differ in nothing else have
one canonical text (`AgreeUpToOrder.canonicalText_eq`), because the normal form of a document is the same
for all its reorderings and for no other document (`normalForm_forgets_member_order`).
-/

set_option autoImplicit false

namespace CompletionCache

open Json (Ascending Reordered normalizeMembers optionalMember)

/-! ## Normal forms of records -/

namespace Json

variable {α : Type}

theorem normalizeMembers_append (front back : Members) :
    normalizeMembers (front ++ back) = normalizeMembers front ++ normalizeMembers back := by
  rw [normalizeMembers_eq_map, normalizeMembers_eq_map, normalizeMembers_eq_map, List.map_append]

/-- Equal fields in front of further members make one normal form when the further members do, also where
one of them has the name of a field. -/
theorem normalize_object_append_eq {front front' extra extra' : Members}
    (fields : normalizeMembers front = normalizeMembers front')
    (further : (object extra).normalize = (object extra').normalize) :
    (object (front ++ extra)).normalize = (object (front' ++ extra')).normalize := by
  rw [normalize, normalize] at further
  have sorted := Json.object.inj further
  rw [normalize, normalize]
  refine congrArg Json.object
    (eq_of_find?_eq (ascending_sortMembers _) (ascending_sortMembers _) fun name => ?_)
  -- The last member of a name is looked for among the further members, and then among the fields.
  rw [find?_sortMembers, find?_sortMembers, normalizeMembers_append, normalizeMembers_append,
    List.reverse_append, List.reverse_append, find?_append, find?_append, fields,
    ← find?_sortMembers name (normalizeMembers extra),
    ← find?_sortMembers name (normalizeMembers extra'), sorted]

/-- Related values have one normal form when the documents of any two of them do. -/
theorem normalize_array_map_eq {R : α → α → Prop} {write : α → Json} {values values' : List α}
    (each : ∀ a ∈ values, ∀ b, R a b → (write a).normalize = (write b).normalize)
    (related : List.Forall₂ R values values') :
    (array (values.map write)).normalize = (array (values'.map write)).normalize := by
  rw [normalize, normalize, normalizeItems_eq_map, normalizeItems_eq_map, List.map_map, List.map_map]
  refine congrArg Json.array ?_
  induction related with
  | nil => rfl
  | cons one others ih =>
    rw [List.map_cons, List.map_cons, ih fun a mem => each a (List.mem_cons_of_mem _ mem)]
    exact congrArg (· :: _) (each _ List.mem_cons_self _ one)

theorem normalizeMembers_optionalMember_eq {R : α → α → Prop} {name : String} {write : α → Json}
    {value value' : Option α}
    (each : ∀ a, value = some a → ∀ b, R a b → (write a).normalize = (write b).normalize)
    (related : Option.Rel R value value') :
    normalizeMembers (optionalMember name write value) =
      normalizeMembers (optionalMember name write value') := by
  cases related with
  | none => rfl
  | some one => simp only [optionalMember, normalizeMembers, each _ rfl _ one]

end Json

/-! ## Messages and tools -/

/-- Two messages that differ in the order of members alone. -/
structure Message.Reordered (message message' : Message) : Prop where
  role : message.role = message'.role
  content : Json.Reordered (Json.ofOption Content.toJson message.content)
    (Json.ofOption Content.toJson message'.content)
  extra : Json.Reordered (.object message.extra) (.object message'.extra)

/-- The documents inside a message. -/
def Message.documents (message : Message) : List Json :=
  [Json.ofOption Content.toJson message.content, .object message.extra]

theorem Message.Reordered.normalize_eq {message message' : Message}
    (reordered : message.Reordered message')
    (distinct : ∀ v ∈ message.documents, v.DistinctNames) :
    message.toJson.normalize = message'.toJson.normalize := by
  have content := reordered.content.normalize_eq (distinct _ List.mem_cons_self)
  have extra := reordered.extra.normalize_eq (distinct _ (List.mem_cons_of_mem _ (by simp)))
  rw [toJson_eq, toJson_eq]
  apply Json.normalize_object_append_eq _ extra
  simp only [fieldMembers, normalizeMembers, content, reordered.role]

/-- Two functions that differ in the order of members alone. -/
structure Function.Reordered (function function' : Function) : Prop where
  name : function.name = function'.name
  description : function.description = function'.description
  parameters : Option.Rel Json.Reordered function.parameters function'.parameters
  extra : Json.Reordered (.object function.extra) (.object function'.extra)

/-- The documents inside a function. -/
def Function.documents (function : Function) : List Json :=
  .object function.extra :: function.parameters.toList

theorem Function.Reordered.normalize_eq {function function' : Function}
    (reordered : function.Reordered function')
    (distinct : ∀ v ∈ function.documents, v.DistinctNames) :
    function.toJson.normalize = function'.toJson.normalize := by
  have extra := reordered.extra.normalize_eq (distinct _ List.mem_cons_self)
  have parameters : normalizeMembers (optionalMember "parameters" id function.parameters) =
      normalizeMembers (optionalMember "parameters" id function'.parameters) := by
    refine Json.normalizeMembers_optionalMember_eq ?_ reordered.parameters
    intro v given w one
    exact one.normalize_eq (distinct v (List.mem_cons_of_mem _ (by simp [given])))
  rw [toJson_eq, toJson_eq]
  apply Json.normalize_object_append_eq _ extra
  simp only [fieldMembers, Json.normalizeMembers_append, parameters, reordered.name,
    reordered.description]

/-- Two tools that differ in the order of members alone. -/
structure Tool.Reordered (tool tool' : Tool) : Prop where
  type : tool.type = tool'.type
  function : tool.function.Reordered tool'.function

theorem Tool.Reordered.normalize_eq {tool tool' : Tool} (reordered : tool.Reordered tool')
    (distinct : ∀ v ∈ tool.function.documents, v.DistinctNames) :
    tool.toJson.normalize = tool'.toJson.normalize := by
  have function := reordered.function.normalize_eq distinct
  rw [toJson, toJson, Json.normalize, Json.normalize]
  simp only [normalizeMembers, function, reordered.type]

/-! ## Requests -/

namespace Request

/-- Two requests ask for one completion up to the order of members: they agree on the scalars among the
fields that decide it, and the documents inside are reordered. -/
structure AgreeUpToOrder (request request' : Request) : Prop where
  model : request.model = request'.model
  messages : List.Forall₂ Message.Reordered request.messages request'.messages
  temperature : request.temperature = request'.temperature
  maxTokens : request.maxTokens = request'.maxTokens
  topP : request.topP = request'.topP
  tools : Option.Rel (List.Forall₂ Tool.Reordered) request.tools request'.tools
  responseFormat : Option.Rel Json.Reordered request.responseFormat request'.responseFormat

/-- The documents inside a request. -/
def documents (request : Request) : List Json :=
  request.messages.flatMap Message.documents ++
    (request.tools.getD []).flatMap (fun tool => tool.function.documents) ++
    request.responseFormat.toList

/-- A request none of whose documents repeats a name. -/
def DistinctNames (request : Request) : Prop := ∀ v ∈ request.documents, v.DistinctNames

instance (request : Request) : Decidable request.DistinctNames :=
  inferInstanceAs (Decidable (∀ v ∈ request.documents, v.DistinctNames))

variable {request request' : Request}

namespace DistinctNames

variable (distinct : request.DistinctNames)

include distinct

theorem message {message : Message} (mem : message ∈ request.messages) :
    ∀ v ∈ message.documents, v.DistinctNames := by
  intro v inside
  apply distinct
  exact List.mem_append_left _ (List.mem_append_left _ (List.mem_flatMap.2 ⟨message, mem, inside⟩))

theorem tool {tools : List Tool} (given : request.tools = some tools) {tool : Tool}
    (mem : tool ∈ tools) : ∀ v ∈ tool.function.documents, v.DistinctNames := by
  intro v inside
  apply distinct
  have listed : tool ∈ request.tools.getD [] := by rwa [given]
  exact List.mem_append_left _ (List.mem_append_right _ (List.mem_flatMap.2 ⟨tool, listed, inside⟩))

theorem responseFormat {v : Json} (given : request.responseFormat = some v) : v.DistinctNames := by
  apply distinct
  exact List.mem_append_right _ (by simp [given])

end DistinctNames

/-- Requests that agree up to the order of members have one canonical text. -/
theorem AgreeUpToOrder.canonicalText_eq (agree : request.AgreeUpToOrder request')
    (distinct : request.DistinctNames) : request.canonicalText = request'.canonicalText := by
  have messages : (Json.array (request.messages.map Message.toJson)).normalize =
      (Json.array (request'.messages.map Message.toJson)).normalize := by
    refine Json.normalize_array_map_eq ?_ agree.messages
    exact fun message mem _ one => one.normalize_eq (distinct.message mem)
  have tools : normalizeMembers (optionalMember "tools"
        (fun tools => .array (tools.map Tool.toJson)) request.tools) =
      normalizeMembers (optionalMember "tools"
        (fun tools => .array (tools.map Tool.toJson)) request'.tools) := by
    refine Json.normalizeMembers_optionalMember_eq ?_ agree.tools
    intro list given list' related
    refine Json.normalize_array_map_eq ?_ related
    exact fun tool mem _ one => one.normalize_eq (distinct.tool given mem)
  have format : normalizeMembers (optionalMember "response_format" id request.responseFormat) =
      normalizeMembers (optionalMember "response_format" id request'.responseFormat) := by
    refine Json.normalizeMembers_optionalMember_eq ?_ agree.responseFormat
    exact fun v given _ one => one.normalize_eq (distinct.responseFormat given)
  have fields : normalizeMembers request.fieldMembers = normalizeMembers request'.fieldMembers := by
    simp only [fieldMembers, Json.normalizeMembers_append, normalizeMembers, List.cons_append,
      messages, tools, format, agree.model, agree.temperature, agree.maxTokens, agree.topP]
  rw [canonicalText, canonicalText, canonicalForm_eq, canonicalForm_eq, Json.normalize,
    Json.normalize, fields]

/-- The normal form of a document that repeats no name is the document with its objects in order at every
depth: an object keeps its names, with the normal forms of their values, a list the normal forms of its
items at their places, and a scalar is left alone. To put it in normal form again changes nothing, two such
documents have one normal form exactly when they are reorderings of each other, and requests that agree up
to the order of members have one canonical text. -/
theorem normalForm_forgets_member_order :
    (∀ v : Json, v.DistinctNames → v.normalize.Sorted ∧ Reordered v v.normalize) ∧
    (∀ members : Members, (members.map (·.1)).Nodup → ∃ sorted,
      (Json.object members).normalize = .object sorted ∧ Ascending sorted ∧
        sorted.Perm (members.map fun member => (member.1, member.2.normalize))) ∧
    (∀ items : List Json, (Json.array items).normalize = .array (items.map Json.normalize)) ∧
    (∀ v : Json, (∀ items, v ≠ .array items) → (∀ members, v ≠ .object members) →
      v.normalize = v) ∧
    (∀ v : Json, v.normalize.normalize = v.normalize) ∧
    (∀ v w : Json, v.DistinctNames → w.DistinctNames →
      (v.normalize = w.normalize ↔ Reordered v w)) ∧
    ∀ request request' : Request, request.DistinctNames → request.AgreeUpToOrder request' →
      request.canonicalText = request'.canonicalText := by
  refine ⟨?_, ?_, ?_, ?_, Json.normalize_normalize, ?_, ?_⟩
  · exact fun v distinct => ⟨v.sorted_normalize, Json.reordered_normalize distinct⟩
  · exact fun members nodup => Json.exists_normalize_object nodup
  · intro items
    rw [Json.normalize, Json.normalizeItems_eq_map]
  · intro v notList notObject
    cases v with
    | null | bool | number | string => rfl
    | array items => exact absurd rfl (notList items)
    | object members => exact absurd rfl (notObject members)
  · exact fun v w distinct distinct' => Json.normalize_eq_iff_reordered distinct distinct'
  · exact fun request request' distinct agree => agree.canonicalText_eq distinct

/-- The schema of a point, with its coordinates in one of two orders. -/
def pointSchema (swapped : Bool) : Json :=
  let coordinates := [("x", .object [("type", .string "number"), ("minimum", .ofNat 0)]),
    ("y", .object [("type", .string "number")])]
  .object [("type", .string "object"),
    ("properties", .object (if swapped then coordinates.reverse else coordinates)),
    ("required", .array [.string "y", .string "x"])]

/-- A request with that schema in a tool and in the format of the response. -/
def plotRequest (swapped : Bool) : Request where
  model := "small"
  messages := [⟨.user, some (.parts [.object [("type", .string "text"), ("text", .string "Plot")]]), []⟩]
  temperature := none
  maxTokens := none
  topP := none
  tools := some [.ofFunction ⟨"plot", none, some (pointSchema swapped), [("strict", .bool true)]⟩]
  responseFormat := some (pointSchema swapped)
  stream := swapped

/-- The two orders are two documents with one normal form, in which the names are in order while the list
keeps its own, and the two requests have one canonical text. -/
theorem normalForm_forgets_order_of_coordinates :
    (pointSchema false ≠ pointSchema true ∧ (pointSchema false).DistinctNames ∧
      (pointSchema true).DistinctNames ∧
      ((pointSchema false).normalize = (pointSchema true).normalize ↔
        Reordered (pointSchema false) (pointSchema true)) ∧
      Reordered (pointSchema false) (pointSchema true)) ∧
    (pointSchema true).normalize.Sorted ∧
    (∃ sorted, (pointSchema true).normalize = .object sorted ∧ Ascending sorted) ∧
    (Json.string "y").normalize = .string "y" ∧
    (plotRequest false ≠ plotRequest true ∧ (plotRequest false).DistinctNames ∧
      (plotRequest false).AgreeUpToOrder (plotRequest true) ∧
      (plotRequest false).canonicalText = (plotRequest true).canonicalText) := by
  obtain ⟨sorted, objects, -, scalars, -, exactly, texts⟩ := normalForm_forgets_member_order
  have distinct : (pointSchema false).DistinctNames := by decide
  have distinct' : (pointSchema true).DistinctNames := by decide
  have schemas := exactly _ _ distinct distinct'
  have reordered := schemas.1 (by decide)
  have requests : (plotRequest false).DistinctNames := by decide
  have same : ∀ v : Json, v.DistinctNames → Reordered v v :=
    fun v distinct => (exactly v v distinct distinct).1 rfl
  have agree : (plotRequest false).AgreeUpToOrder (plotRequest true) := {
    model := rfl
    messages := .cons ⟨rfl, same _ (by decide), same _ (by decide)⟩ .nil
    temperature := rfl
    maxTokens := rfl
    topP := rfl
    tools := .some (.cons ⟨rfl, rfl, rfl, .some reordered, same _ (by decide)⟩ .nil)
    responseFormat := .some reordered }
  obtain ⟨members, form, ascending, -⟩ := objects [("type", .string "object"),
    ("properties", .object [("y", .object [("type", .string "number")]),
      ("x", .object [("type", .string "number"), ("minimum", .ofNat 0)])]),
    ("required", .array [.string "y", .string "x"])] (by decide)
  exact ⟨⟨by decide, distinct, distinct', schemas, reordered⟩, (sorted _ distinct').1,
    ⟨members, form, ascending⟩, scalars _ (by simp) (by simp), by decide, requests, agree,
    texts _ _ requests agree⟩

end Request

end CompletionCache
