import CompletionCache.Fingerprint
import CompletionCache.Proofs.Request.WellFormed

/-!
# The canonical text decides a request

Two requests read from bodies have one canonical text exactly when they agree on everything but the
flag for streaming (`canonicalText_eq_iff_agree`). The text determines the canonical form, since its
numbers are printable; the form determines every named member, since no further member shadows a
field; and every member determines its field, since an absent field leaves no member and a present
one is never null.
-/

set_option autoImplicit false

namespace CompletionCache

open Json (Collected find? optionalMember)

/-! ## Values from their documents -/

theorem eq_of_option_map_eq {α β : Type} {encode : α → β} {value value' : Option α}
    (injective : ∀ a, value = some a → ∀ b, value' = some b → encode a = encode b → a = b)
    (same : value.map encode = value'.map encode) : value = value' := by
  cases value with
  | none =>
    cases value' with
    | none => rfl
    | some b => cases same
  | some a =>
    cases value' with
    | none => cases same
    | some b => exact congrArg some (injective a rfl b rfl (Option.some.inj same))

theorem eq_of_list_map_eq {α β : Type} {encode : α → β} {values values' : List α}
    (injective : ∀ a ∈ values, ∀ b ∈ values', encode a = encode b → a = b)
    (same : values.map encode = values'.map encode) : values = values' := by
  induction values generalizing values' with
  | nil =>
    cases values' with
    | nil => rfl
    | cons b others => cases same
  | cons a values ih =>
    cases values' with
    | nil => cases same
    | cons b others =>
      obtain ⟨first, rest⟩ := List.cons.inj same
      rw [injective a List.mem_cons_self b List.mem_cons_self first,
        ih (fun a mem b mem' => injective a (List.mem_cons_of_mem _ mem) b
          (List.mem_cons_of_mem _ mem')) rest]

theorem eq_of_normalize_array_map {α : Type} {encode : α → Json} {values values' : List α}
    (injective : ∀ a ∈ values, ∀ b ∈ values',
      (encode a).normalize = (encode b).normalize → a = b)
    (same : (Json.array (values.map encode)).normalize =
      (Json.array (values'.map encode)).normalize) : values = values' := by
  rw [Json.normalize, Json.normalize, Json.normalizeItems_eq_map, Json.normalizeItems_eq_map,
    List.map_map, List.map_map] at same
  exact eq_of_list_map_eq injective (Json.array.inj same)

theorem Role.name_injective {role role' : Role} (same : role.name = role'.name) : role = role' := by
  cases role <;> cases role' <;> first | rfl | exact absurd same (by decide)

theorem Content.eq_of_normalize_toJson {content content' : Option Content}
    (wellFormed : ∀ c, content = some c → c.WellFormed)
    (wellFormed' : ∀ c, content' = some c → c.WellFormed)
    (same : (Json.ofOption Content.toJson content).normalize =
      (Json.ofOption Content.toJson content').normalize) : content = content' := by
  have normal : ∀ {content : Option Content}, (∀ c, content = some c → c.WellFormed) →
      (Json.ofOption Content.toJson content).normalize = Json.ofOption Content.toJson content := by
    rintro (_ | content) wellFormed
    · rfl
    · cases content with
      | text value => rfl
      | parts items => exact (Json.wellFormed_array_iff.2 (wellFormed _ rfl)).normal
  -- Both documents are in their normal form already, so they are equal as they stand.
  rw [normal wellFormed, normal wellFormed'] at same
  rcases content with _ | value | items <;> rcases content' with _ | value' | items' <;>
    cases same <;> rfl

/-! ## Messages -/

/-- The fields of a message as members. -/
def Message.fieldMembers (message : Message) : Members :=
  [("role", message.role.toJson), ("content", Json.ofOption Content.toJson message.content)]

theorem Message.toJson_eq (message : Message) :
    message.toJson = .object (message.fieldMembers ++ message.extra) := rfl

theorem Message.names_fieldMembers (message : Message) :
    message.fieldMembers.map (·.1) = Message.layout.names := rfl

/-- A well-formed message is determined by the normal form of its document. -/
theorem Message.eq_of_normalize_toJson {message message' : Message} (wellFormed : message.WellFormed)
    (wellFormed' : message'.WellFormed)
    (same : message.toJson.normalize = message'.toJson.normalize) : message = message' := by
  rw [toJson_eq, toJson_eq] at same
  have nodup : layout.names.Nodup := by decide
  obtain ⟨fields, extra⟩ := Collected.of_normalize_eq nodup wellFormed.extra wellFormed'.extra
    (message.names_fieldMembers ▸ List.Sublist.refl _)
    (message'.names_fieldMembers ▸ List.Sublist.refl _) same
  -- A message writes both of its fields, a missing content as null.
  have role := Option.some.inj (fields "role" (by decide))
  have content := Option.some.inj (fields "content" (by decide))
  have roleSame := Role.name_injective (Json.string.inj role)
  have contentSame := Content.eq_of_normalize_toJson wellFormed.content wellFormed'.content content
  cases message
  cases message'
  simp only at roleSame contentSame extra
  rw [roleSame, contentSame, extra]

/-! ## Tools -/

theorem Json.Present.eq_of_map_normalize {value value' : Option Json}
    (present : ∀ v, value = some v → v.Present) (present' : ∀ v, value' = some v → v.Present)
    (same : value.map Json.normalize = value'.map Json.normalize) : value = value' := by
  refine eq_of_option_map_eq ?_ same
  intro v given w given' normal
  rwa [(present v given).wellFormed.normal, (present' w given').wellFormed.normal] at normal

/-- The fields of a function as members. -/
def Function.fieldMembers (function : Function) : Members :=
  ("name", .string function.name) ::
    optionalMember "description" Json.string function.description ++
    optionalMember "parameters" id function.parameters

theorem Function.toJson_eq (function : Function) :
    function.toJson = .object (function.fieldMembers ++ function.extra) := rfl

theorem Function.names_fieldMembers (function : Function) :
    (function.fieldMembers.map (·.1)).Sublist Function.layout.names := by
  have first := Json.names_optionalMember_sublist "description" Json.string function.description
  have name := Json.names_cons_sublist first "name" (.string function.name)
  exact Json.names_append_sublist name "parameters" id function.parameters

/-- A well-formed function is determined by the normal form of its document. -/
theorem Function.eq_of_normalize_toJson {function function' : Function}
    (wellFormed : function.WellFormed) (wellFormed' : function'.WellFormed)
    (same : function.toJson.normalize = function'.toJson.normalize) : function = function' := by
  rw [toJson_eq, toJson_eq] at same
  have nodup : layout.names.Nodup := by decide
  obtain ⟨fields, extra⟩ := Collected.of_normalize_eq nodup wellFormed.extra wellFormed'.extra
    function.names_fieldMembers function'.names_fieldMembers same
  have name := fields "name" (by decide)
  have description := fields "description" (by decide)
  have parameters := fields "parameters" (by decide)
  simp [fieldMembers, find?, Json.find?_append, Json.find?_optionalMember]
    at name description parameters
  have nameSame : function.name = function'.name := Json.string.inj name
  have descriptionSame : function.description = function'.description :=
    eq_of_option_map_eq (fun _ _ _ _ text => Json.string.inj text) description
  have parametersSame : function.parameters = function'.parameters :=
    Json.Present.eq_of_map_normalize wellFormed.parameters wellFormed'.parameters parameters
  cases function
  cases function'
  simp only at nameSame descriptionSame parametersSame extra
  rw [nameSame, descriptionSame, parametersSame, extra]

theorem Tool.eq_of_normalize_toJson {tool tool' : Tool} (wellFormed : tool.function.WellFormed)
    (wellFormed' : tool'.function.WellFormed)
    (same : tool.toJson.normalize = tool'.toJson.normalize) : tool = tool' := by
  have members := fun name => congrArg (Json.member? name) same
  have names : ["type", "function"].Nodup := by decide
  have nodup : ∀ tool : Tool,
      ([("type", Json.string tool.type), ("function", tool.function.toJson)].map (·.1)).Nodup :=
    fun _ => names
  simp only [toJson, Json.member?_normalize_object (nodup _)] at members
  have type := Option.some.inj (members "type")
  have function := Option.some.inj (members "function")
  have typeSame : tool.type = tool'.type := Json.string.inj type
  have functionSame := Function.eq_of_normalize_toJson wellFormed wellFormed' function
  cases tool
  cases tool'
  simp only at typeSame functionSame
  rw [typeSame, functionSame]

/-! ## Requests -/

namespace Request

/-- Two requests ask for one completion: they agree on all fields but the flag for streaming. -/
structure Agree (request request' : Request) : Prop where
  model : request.model = request'.model
  messages : request.messages = request'.messages
  temperature : request.temperature = request'.temperature
  maxTokens : request.maxTokens = request'.maxTokens
  topP : request.topP = request'.topP
  tools : request.tools = request'.tools
  responseFormat : request.responseFormat = request'.responseFormat

/-- The fields that decide the completion as members. -/
def fieldMembers (request : Request) : Members :=
  ("model", .string request.model) ::
    ("messages", .array (request.messages.map Message.toJson)) ::
    optionalMember "temperature" Json.ofBinary64 request.temperature ++
    optionalMember "max_tokens" (fun n => Json.ofNat n.toNat) request.maxTokens ++
    optionalMember "top_p" Json.ofBinary64 request.topP ++
    optionalMember "tools" (fun tools => .array (tools.map Tool.toJson)) request.tools ++
    optionalMember "response_format" id request.responseFormat

theorem canonicalForm_eq (request : Request) :
    request.canonicalForm = Json.normalize (.object request.fieldMembers) := rfl

/-- Whichever fields are absent, the others stand in the order of this list. -/
theorem names_fieldMembers (request : Request) : (request.fieldMembers.map (·.1)).Sublist
    ["model", "messages", "temperature", "max_tokens", "top_p", "tools", "response_format"] := by
  have first := Json.names_optionalMember_sublist "temperature" Json.ofBinary64 request.temperature
  have messages := Json.names_cons_sublist first "messages"
    (.array (request.messages.map Message.toJson))
  have model := Json.names_cons_sublist messages "model" (.string request.model)
  have maxTokens := Json.names_append_sublist model "max_tokens"
    (fun n : UInt32 => Json.ofNat n.toNat) request.maxTokens
  have topP := Json.names_append_sublist maxTokens "top_p" Json.ofBinary64 request.topP
  have tools := Json.names_append_sublist topP "tools"
    (fun tools : List Tool => Json.array (tools.map Tool.toJson)) request.tools
  exact Json.names_append_sublist tools "response_format" id request.responseFormat

theorem nodup_fieldMembers (request : Request) : (request.fieldMembers.map (·.1)).Nodup :=
  List.Nodup.sublist request.names_fieldMembers (by decide)

theorem member?_canonicalForm (request : Request) (name : String) :
    request.canonicalForm.member? name = (find? name request.fieldMembers).map Json.normalize :=
  Json.member?_normalize_object request.nodup_fieldMembers name

/-- The canonical form is made of the deciding fields alone. -/
theorem Agree.canonicalForm_eq {request request' : Request} (agree : request.Agree request') :
    request.canonicalForm = request'.canonicalForm := by
  have same : request.fieldMembers = request'.fieldMembers := by
    simp only [fieldMembers, agree.model, agree.messages, agree.temperature, agree.maxTokens,
      agree.topP, agree.tools, agree.responseFormat]
  rw [Request.canonicalForm_eq, Request.canonicalForm_eq, same]

theorem eq_of_map_ofBinary64 {x y : Option Binary64} (finite : ∀ a, x = some a → a.isFinite = true)
    (finite' : ∀ b, y = some b → b.isFinite = true)
    (same : x.map (Json.normalize ∘ Json.ofBinary64) = y.map (Json.normalize ∘ Json.ofBinary64)) :
    x = y := by
  refine eq_of_option_map_eq ?_ same
  intro a given b given' document
  simp only [Function.comp, Json.ofBinary64, finite a given, finite' b given', if_true] at document
  exact Number.real.inj (Json.number.inj document)

/-- The canonical forms of well-formed requests are equal only when the requests agree. -/
theorem WellFormed.agree_of_canonicalForm_eq {request request' : Request}
    (wellFormed : request.WellFormed) (wellFormed' : request'.WellFormed)
    (same : request.canonicalForm = request'.canonicalForm) : request.Agree request' := by
  -- Sorting moves members about and keeps what their names find.
  have members : ∀ name, (find? name request.fieldMembers).map Json.normalize =
      (find? name request'.fieldMembers).map Json.normalize := by
    intro name
    rw [← member?_canonicalForm, ← member?_canonicalForm, same]
  have model := members "model"
  have messages := members "messages"
  have temperature := members "temperature"
  have maxTokens := members "max_tokens"
  have topP := members "top_p"
  have tools := members "tools"
  have responseFormat := members "response_format"
  simp [fieldMembers, find?, Json.find?_append, Json.find?_optionalMember]
    at model messages temperature maxTokens topP tools responseFormat
  exact {
    model := Json.string.inj model
    messages := eq_of_normalize_array_map (fun message mem message' mem' =>
      Message.eq_of_normalize_toJson (wellFormed.messages message mem)
        (wellFormed'.messages message' mem')) messages
    temperature := eq_of_map_ofBinary64 wellFormed.temperature wellFormed'.temperature temperature
    maxTokens := by
      refine eq_of_option_map_eq ?_ maxTokens
      intro n _ n' _ document
      have toNat := Int.ofNat.inj (Number.integer.inj (Json.number.inj document))
      exact UInt32.toNat_inj.1 toNat
    topP := eq_of_map_ofBinary64 wellFormed.topP wellFormed'.topP topP
    tools := by
      refine eq_of_option_map_eq ?_ tools
      intro list given list' given' document
      exact eq_of_normalize_array_map (fun tool mem tool' mem' =>
        Tool.eq_of_normalize_toJson (wellFormed.tools list given tool mem)
          (wellFormed'.tools list' given' tool' mem')) document
    responseFormat := Json.Present.eq_of_map_normalize wellFormed.responseFormat
      wellFormed'.responseFormat responseFormat }

end Request

/-! ## Documents of well-formed parts -/

theorem Message.WellFormed.printable {message : Message} (wellFormed : message.WellFormed) :
    message.toJson.Printable := by
  rw [toJson_eq, Json.printable_object_iff]
  intro member mem
  rcases List.mem_append.1 mem with field | extra
  · rcases List.mem_pair.1 field with rfl | rfl
    · exact Json.printable_string _
    · cases given : message.content with
      | none => exact fun n mem => absurd mem (List.not_mem_nil)
      | some content =>
        have parts := wellFormed.content content given
        cases content with
        | text value => exact Json.printable_string value
        | parts items =>
          exact Json.printable_array_iff.2 fun item mem => (parts item mem).printable
  · exact wellFormed.extra.printable member extra

theorem Function.WellFormed.printable {function : Function} (wellFormed : function.WellFormed) :
    function.toJson.Printable := by
  rw [toJson_eq, Json.printable_object_iff]
  refine Json.forall_append (Json.forall_append (Json.forall_cons (Json.printable_string _) ?_) ?_)
    wellFormed.extra.printable
  · exact Json.forall_optionalMember fun text _ => Json.printable_string text
  · exact Json.forall_optionalMember fun v given =>
      (wellFormed.parameters v given).wellFormed.printable

theorem Tool.printable_toJson {tool : Tool} (wellFormed : tool.function.WellFormed) :
    tool.toJson.Printable := by
  rw [toJson, Json.printable_object_iff]
  refine Json.forall_cons (Json.printable_string _) (Json.forall_cons wellFormed.printable ?_)
  intro member mem
  cases mem

namespace Request

/-- Every field of a well-formed request is written as a legible document. -/
theorem WellFormed.forall_fieldMembers {request : Request} (wellFormed : request.WellFormed) :
    ∀ member ∈ request.fieldMembers, member.2.Legible := by
  have number : ∀ x : Binary64, x.isFinite = true → (Json.ofBinary64 x).Legible := by
    intro x finite
    rw [Json.ofBinary64, if_pos finite]
    refine ⟨?_, by simp⟩
    intro n mem
    rw [List.mem_singleton.1 mem]
    exact finite
  unfold fieldMembers
  refine Json.forall_append (Json.forall_append (Json.forall_append (Json.forall_append
    (Json.forall_cons ?_ (Json.forall_cons ?_ ?_)) ?_) ?_) ?_) ?_
  · exact ⟨Json.printable_string _, by simp⟩
  · refine ⟨Json.printable_array_iff.2 ?_, by simp⟩
    intro item mem
    obtain ⟨message, listed, rfl⟩ := List.mem_map.1 mem
    exact (wellFormed.messages message listed).printable
  · exact Json.forall_optionalMember fun x given => number x (wellFormed.temperature x given)
  · refine Json.forall_optionalMember fun n _ => ⟨?_, by simp [Json.ofNat]⟩
    intro m mem
    rw [List.mem_singleton.1 mem]
    have small := n.toNat_lt
    refine ⟨?_, ?_⟩
    · rw [Number.leastInteger]
      omega
    · rw [Number.greatestInteger]
      omega
  · exact Json.forall_optionalMember fun x given => number x (wellFormed.topP x given)
  · refine Json.forall_optionalMember fun tools given => ⟨Json.printable_array_iff.2 ?_, by simp⟩
    intro item mem
    obtain ⟨tool, listed, rfl⟩ := List.mem_map.1 mem
    exact Tool.printable_toJson (wellFormed.tools tools given tool listed)
  · exact Json.forall_optionalMember fun v given =>
      ⟨(wellFormed.responseFormat v given).wellFormed.printable,
        (wellFormed.responseFormat v given).notNull⟩

theorem WellFormed.canonicalForm {request : Request} (wellFormed : request.WellFormed) :
    request.canonicalForm.WellFormed := by
  apply Json.wellFormed_normalize
  rw [Json.printable_object_iff]
  exact fun member mem => (wellFormed.forall_fieldMembers member mem).printable

theorem WellFormed.member?_ne_null {request : Request} (wellFormed : request.WellFormed)
    (name : String) : request.canonicalForm.member? name ≠ some .null := by
  rw [member?_canonicalForm]
  intro null
  obtain ⟨value, found, normal⟩ := Option.map_eq_some_iff.1 null
  have notNull := (wellFormed.forall_fieldMembers _ (Json.mem_of_find? found)).notNull
  cases value with
  | null => exact notNull rfl
  | _ => simp [Json.normalize] at normal

theorem canonicalText_ne_empty (request : Request) : request.canonicalText ≠ "" := by
  intro empty
  have written := congrArg String.toList empty
  rw [canonicalText, Json.text, String.toList_ofList] at written
  cases written

/-- Two requests read from well-formed bodies have one canonical text exactly when they agree on
everything but the flag for streaming. The text is that of a well-formed document, so no number in
it is written as null; nor is any field of the request, and the text is never empty. -/
theorem canonicalText_eq_iff_agree {body body' : Json} (wellFormed : body.WellFormed)
    (wellFormed' : body'.WellFormed) {request request' : Request}
    (read : ofBody body = .ok request) (read' : ofBody body' = .ok request') :
    (request.canonicalText = request'.canonicalText ↔ request.Agree request') ∧
      request.canonicalForm.WellFormed ∧
      (∀ name, request.canonicalForm.member? name ≠ some .null) ∧
      request.canonicalText ≠ "" := by
  have formed := wellFormed_of_ofBody wellFormed read
  have formed' := wellFormed_of_ofBody wellFormed' read'
  refine ⟨⟨?_, ?_⟩, formed.canonicalForm, formed.member?_ne_null, request.canonicalText_ne_empty⟩
  · intro text
    -- The text determines the form, and the form determines the fields.
    have form := Json.text_injective formed.canonicalForm.printable formed'.canonicalForm.printable
      text
    exact formed.agree_of_canonicalForm_eq formed' form
  · intro agree
    rw [canonicalText, canonicalText, agree.canonicalForm_eq]

/-- A body with one message, a temperature, and the flag for streaming. -/
def chatBody (stream : Bool) : Json :=
  .object [("messages", .array [.object [("content", .string "Hi"), ("name", .string "Ada"),
      ("role", .string "user")]]),
    ("model", .string "small"), ("stream", .bool stream), ("temperature", .ofBinary64 .one)]

/-- The request of that body. -/
def chatRequest (stream : Bool) : Request where
  model := "small"
  messages := [⟨.user, some (.text "Hi"), [("name", .string "Ada")]⟩]
  temperature := some .one
  maxTokens := none
  topP := none
  tools := none
  responseFormat := none
  stream := stream

/-- The flag for streaming is read, and it leaves the text as it is. -/
theorem canonicalText_chatRequest :
    chatRequest true ≠ chatRequest false ∧
      ((chatRequest true).canonicalText = (chatRequest false).canonicalText ↔
        (chatRequest true).Agree (chatRequest false)) ∧
      (chatRequest true).canonicalForm.WellFormed ∧
      (∀ name, (chatRequest true).canonicalForm.member? name ≠ some .null) ∧
      (chatRequest true).canonicalText ≠ "" :=
  ⟨by decide, canonicalText_eq_iff_agree (show (chatBody true).WellFormed by decide)
    (show (chatBody false).WellFormed by decide) rfl rfl⟩

end Request

end CompletionCache
