import CompletionCache.Proofs.Request.Decoders

/-!
# Requests written and read again

The parts of a request that was read from a body are well-formed, so each is read back from the normal
form of its document: a message and a function with their further members
(`Message.ofJson_normalize_toJson`, `Function.ofJson_normalize_toJson`), and a request by either decoder.
So no two of these requests have one document, and to normalise a body twice is to normalise it once
(`read_back_from_document`).
-/

set_option autoImplicit false

namespace CompletionCache

open Json (Collected Mismatch find? normalizeMembers sortMembers optionalMember)

/-! ## Records in their normal form -/

namespace Json

variable {α : Type}

theorem find?_normalForm {members : Members} (nodup : (members.map (·.1)).Nodup) (name : String) :
    find? name (sortMembers (normalizeMembers members)) = (find? name members).map normalize := by
  have same := member?_normalize_object nodup name
  rwa [normalize, member?] at same

/-- In the normal form of an object the fields are found under their names, and the further members are
collected again. -/
theorem Collected.normalForm {layout : Layout} {front extra : Members}
    (collected : Collected layout.names extra) (within : (front.map (·.1)).Sublist layout.names)
    (nodup : layout.names.Nodup) (printable : (object (front ++ extra)).Printable) :
    ∃ members, normalize (object (front ++ extra)) = object members ∧ Ascending members ∧
      (∀ name ∈ layout.names, find? name members = (find? name front).map normalize) ∧
      Record.others ⟨layout, members, none⟩ = extra := by
  have wellFormed := wellFormed_normalize printable
  have found := find?_normalForm (collected.nodup_append within nodup)
  rw [normalize] at wellFormed ⊢
  generalize sortMembers (normalizeMembers (front ++ extra)) = members at wellFormed found
  obtain ⟨ascending, each⟩ := wellFormed_object_iff.1 wellFormed
  have values : ∀ member ∈ Record.members ⟨layout, members, none⟩, member.2.Printable :=
    fun member mem => (each member mem).printable
  have again : Collected layout.names (Record.others ⟨layout, members, none⟩) :=
    collected_others values
  refine ⟨members, rfl, ascending, ?_, eq_of_find?_eq again.ascending collected.ascending ?_⟩
  · intro name field
    rw [found, find?_append, collected.apart name field, Option.or_none]
  · intro name
    by_cases field : name ∈ layout.names
    · rw [again.apart name field, collected.apart name field]
    · rw [find?_others wellFormed field, found, find?_append,
        find?_eq_none_of_sublist within field, Option.none_or, collected.map_find?_normalize]

theorem Present.normalize_ne_null {v : Json} (present : v.Present) : v.normalize ≠ null :=
  present.wellFormed.normal.symm ▸ present.notNull

theorem Present.readAny_normalize {v : Json} (present : v.Present) :
    readAny v.normalize = .ok v := by
  rw [readAny, normalize_normalize, present.wellFormed.normal]

/-- A parameter that is left out when it is absent is read back. -/
theorem readPresent_of_member? {body : Json} {name : String} {read : Json → Except Mismatch α}
    {write : α → Json} {value : Option α} (found : body.member? name = value.map write)
    (notNull : ∀ a, value = some a → write a ≠ null)
    (back : ∀ a, value = some a → read (write a) = .ok a) :
    readPresent read (Request.present? body name) = .ok value := by
  rw [Request.present?, found]
  cases value with
  | none => rfl
  | some a =>
    rw [Option.map_some, Option.filter_some, if_pos (by simpa using notNull a rfl), readPresent,
      back a rfl]
    rfl

/-- A list is read back when its items are. -/
theorem readList_map {read : Json → Except Mismatch α} {write : α → Json} {values : List α}
    (back : ∀ a ∈ values, read (write a) = .ok a) :
    readList read (array (values.map write)) = .ok values := by
  rw [readList]
  induction values with
  | nil => rfl
  | cons a values ih =>
    rw [List.map_cons, List.mapM_cons, back a List.mem_cons_self,
      ih fun other mem => back other (List.mem_cons_of_mem _ mem)]
    rfl

end Json

/-! ## Messages -/

theorem Role.ofJson_toJson (role : Role) : Role.ofJson role.toJson = .ok role := by
  cases role <;> rfl

theorem Content.readOption_normalize_toJson {content : Option Content}
    (wellFormed : ∀ c, content = some c → c.WellFormed) :
    Json.readOption Content.ofJson (Json.ofOption Content.toJson content).normalize = .ok content := by
  rcases content with _ | text | items
  · rfl
  · rfl
  · have normal : Json.normalizeItems items = items :=
      Json.array.inj (Json.wellFormed_array_iff.2 (wellFormed _ rfl)).normal
    change Except.ok (some (Content.parts (Json.normalizeItems (Json.normalizeItems items)))) = _
    rw [normal, normal]

/-- A well-formed message is read back from the normal form of its document. -/
theorem Message.ofJson_normalize_toJson {message : Message} (wellFormed : message.WellFormed) :
    Message.ofJson message.toJson.normalize = .ok message := by
  obtain ⟨members, form, ascending, found, others⟩ := wellFormed.extra.normalForm
    (message.names_fieldMembers ▸ List.Sublist.refl _) (by decide)
    (message.toJson_eq ▸ wellFormed.printable)
  have role : Json.Record.field ⟨layout, members, none⟩ "role" Role.ofJson = .ok message.role :=
    Json.field_of_find? (found "role" (by decide)) message.role.ofJson_toJson
  have content : Json.Record.field? ⟨layout, members, none⟩ "content"
      (Json.readOption Content.ofJson) = .ok (some message.content) :=
    Json.field?_of_find? (found "content" (by decide))
      (Content.readOption_normalize_toJson wellFormed.content)
  have record : layout.record (.object members) = .ok ⟨layout, members, none⟩ := by
    apply Json.record_of_passes (by decide) (Json.nodup_names ascending)
    intro field mem
    rcases List.mem_pair.1 mem with rfl | rfl
    · exact Json.passes_of_field role
    · exact Json.passes_of_field? content
  rw [toJson_eq, form, Message.ofJson, Json.bind_of_ok record, Json.bind_of_ok role,
    Json.bind_of_ok content, others]
  rfl

/-! ## Functions and tools -/

/-- A well-formed function is read back from the normal form of its document. -/
theorem Function.ofJson_normalize_toJson {function : Function} (wellFormed : function.WellFormed) :
    Function.ofJson function.toJson.normalize = .ok function := by
  obtain ⟨members, form, ascending, found, others⟩ := wellFormed.extra.normalForm
    function.names_fieldMembers (by decide) (function.toJson_eq ▸ wellFormed.printable)
  have name : Json.Record.field ⟨layout, members, none⟩ "name" Json.readText = .ok function.name :=
    Json.field_of_find? (found "name" (by decide)) rfl
  have describedRead : Json.readPresent Json.readText
      (Request.present? (.object members) "description") = .ok function.description := by
    have described : (Json.object members).member? "description" =
        function.description.map (Json.normalize ∘ Json.string) := by
      rw [Json.member?, found "description" (by decide)]
      simp [fieldMembers, find?, Json.find?_append, Json.find?_optionalMember]
    exact Json.readPresent_of_member? described (fun _ _ null => by cases null) fun _ _ => rfl
  have parametersRead : Json.readPresent Json.readAny
      (Request.present? (.object members) "parameters") = .ok function.parameters := by
    have parametrised : (Json.object members).member? "parameters" =
        function.parameters.map Json.normalize := by
      rw [Json.member?, found "parameters" (by decide)]
      simp [fieldMembers, find?, Json.find?_append, Json.find?_optionalMember]
    refine Json.readPresent_of_member? parametrised ?_ ?_
    · intro v given
      exact (wellFormed.parameters v given).normalize_ne_null
    · intro v given
      exact (wellFormed.parameters v given).readAny_normalize
  obtain ⟨description, descriptionField, descriptionSame⟩ :=
    Json.field?_of_readPresent layout describedRead
  obtain ⟨parameters, parametersField, parametersSame⟩ :=
    Json.field?_of_readPresent layout parametersRead
  have record : layout.record (.object members) = .ok ⟨layout, members, none⟩ := by
    apply Json.record_of_passes (by decide) (Json.nodup_names ascending)
    intro field mem
    simp only [layout, List.mem_cons, List.not_mem_nil, or_false] at mem
    rcases mem with rfl | rfl | rfl
    · exact Json.passes_of_field name
    · exact Json.passes_of_field? descriptionField
    · exact Json.passes_of_field? parametersField
  rw [toJson_eq, form, Function.ofJson, Json.bind_of_ok record, Json.bind_of_ok name,
    Json.bind_of_ok descriptionField, Json.bind_of_ok parametersField, others, descriptionSame,
    parametersSame]
  rfl

/-- A tool is read back from the normal form of its document when its function is well-formed. -/
theorem Tool.ofJson_normalize_toJson {tool : Tool} (wellFormed : tool.function.WellFormed) :
    Tool.ofJson tool.toJson.normalize = .ok tool := by
  have nodup : (List.map (·.1)
      [("type", Json.string tool.type), ("function", tool.function.toJson)]).Nodup :=
    show ["type", "function"].Nodup by decide
  have found := Json.find?_normalForm nodup
  have ascending := Json.ascending_sortMembers
    (normalizeMembers [("type", Json.string tool.type), ("function", tool.function.toJson)])
  rw [toJson, Json.normalize]
  generalize sortMembers (normalizeMembers [("type", Json.string tool.type),
    ("function", tool.function.toJson)]) = members at found ascending
  have type : Json.Record.field ⟨layout, members, none⟩ "type" Json.readText = .ok tool.type :=
    Json.field_of_find? (found "type") rfl
  have function : Json.Record.field ⟨layout, members, none⟩ "function" Function.ofJson =
      .ok tool.function :=
    Json.field_of_find? (found "function") (Function.ofJson_normalize_toJson wellFormed)
  have record : layout.record (.object members) = .ok ⟨layout, members, none⟩ := by
    apply Json.record_of_passes (by decide) (Json.nodup_names ascending)
    intro field mem
    rcases List.mem_pair.1 mem with rfl | rfl
    · exact Json.passes_of_field type
    · exact Json.passes_of_field function
  rw [Tool.ofJson, Json.bind_of_ok record, Json.bind_of_ok type, Json.bind_of_ok function]
  rfl

/-! ## Requests -/

namespace Request

variable {request : Request}

/-- The members of the document of a request. -/
def members (request : Request) : Members :=
  request.fieldMembers ++ [("stream", .bool request.stream)]

theorem toJson_eq (request : Request) : request.toJson = .object request.members := rfl

theorem nodup_members (request : Request) : (request.members.map (·.1)).Nodup := by
  have within := request.names_fieldMembers.append (List.Sublist.refl ["stream"])
  rw [members, List.map_append]
  exact List.Nodup.sublist within (by decide)

theorem WellFormed.normalize_toJson (wellFormed : request.WellFormed) :
    request.toJson.normalize.WellFormed := by
  apply Json.wellFormed_normalize
  rw [toJson_eq, Json.printable_object_iff]
  refine Json.forall_append ?_ (Json.forall_cons ?_ nofun)
  · exact fun member mem => (wellFormed.forall_fieldMembers member mem).printable
  · exact fun n mem => absurd mem List.not_mem_nil

theorem member?_normalize_toJson (request : Request) (name : String) :
    request.toJson.normalize.member? name = (find? name request.members).map Json.normalize :=
  Json.member?_normalize_object request.nodup_members name

/-- A parameter is read back from the document of a request. -/
theorem readPresent_normalize_toJson {α : Type} {name : String} {read : Json → Except Mismatch α}
    {write : α → Json} {value : Option α} (found : find? name request.members = value.map write)
    (notNull : ∀ a, value = some a → (write a).normalize ≠ .null)
    (back : ∀ a, value = some a → read (write a).normalize = .ok a) :
    Json.readPresent read (present? request.toJson.normalize name) = .ok value := by
  have written : request.toJson.normalize.member? name = value.map (Json.normalize ∘ write) := by
    rw [member?_normalize_toJson, found, Option.map_map]
  exact Json.readPresent_of_member? written notNull back

theorem readPresent_ofBinary64 {name : String} {number : Option Binary64}
    (found : find? name request.members = number.map Json.ofBinary64)
    (finite : ∀ x, number = some x → x.isFinite = true) :
    Json.readPresent Json.readBinary64 (present? request.toJson.normalize name) = .ok number := by
  have document : ∀ x, number = some x → (Json.ofBinary64 x).normalize = .number (.real x) := by
    intro x given
    rw [Json.ofBinary64, if_pos (finite x given)]
    rfl
  refine readPresent_normalize_toJson found ?_ ?_
  · intro x given
    rw [document x given]
    intro null
    cases null
  · intro x given
    rw [document x given]
    rfl

/-- A list of well-formed items is read back from the normal form of its document. -/
theorem readList_normalize_array {α : Type} {read : Json → Except Mismatch α} {write : α → Json}
    {values : List α} (back : ∀ a ∈ values, read (write a).normalize = .ok a) :
    Json.readList read (Json.array (values.map write)).normalize = .ok values := by
  rw [Json.normalize, Json.normalizeItems_eq_map, List.map_map]
  exact Json.readList_map back

/-- Some members hold the parameters of a request under their first names. -/
structure HeldBy (members : Members) (request : Request) : Prop where
  temperature : find? "temperature" members = request.temperature.map Json.ofBinary64
  maxTokens : find? "max_tokens" members = request.maxTokens.map fun n => Json.ofNat n.toNat
  topP : find? "top_p" members = request.topP.map Json.ofBinary64
  tools : find? "tools" members =
    request.tools.map fun tools => Json.array (tools.map Tool.toJson)
  format : find? "response_format" members = request.responseFormat.map id
  stream : find? "stream" members = (some request.stream).map Json.bool
  secondLimit : find? "max_completion_tokens" members = none
  functions : find? "functions" members = none

theorem heldBy_members (request : Request) : HeldBy request.members request := by
  constructor <;>
    simp [members, fieldMembers, find?, Json.find?_append, Json.find?_optionalMember]

/-- A well-formed request is written by the normal form of its document. -/
theorem WellFormed.writtenBy (wellFormed : request.WellFormed) :
    WrittenBy request.toJson.normalize request := by
  have held := request.heldBy_members
  have formatRead : Json.readPresent Json.readAny
      (present? request.toJson.normalize "response_format") = .ok request.responseFormat :=
    readPresent_normalize_toJson held.format
      (fun v given => (wellFormed.responseFormat v given).normalize_ne_null)
      fun v given => (wellFormed.responseFormat v given).readAny_normalize
  have kept := Json.readPresent_readAny wellFormed.normalize_toJson "response_format"
  exact {
    model := member?_normalize_toJson request "model"
    messages := ⟨_, member?_normalize_toJson request "messages", readList_normalize_array
      fun message mem => Message.ofJson_normalize_toJson (wellFormed.messages message mem)⟩
    temperature := readPresent_ofBinary64 held.temperature wellFormed.temperature
    maxTokens := readPresent_normalize_toJson held.maxTokens (fun _ _ null => by cases null)
      fun _ _ => Json.readUInt32_eq_ok_iff.2 rfl
    topP := readPresent_ofBinary64 held.topP wellFormed.topP
    tools := readPresent_normalize_toJson held.tools (fun _ _ null => by cases null)
      fun tools given => readList_normalize_array fun tool mem =>
        Tool.ofJson_normalize_toJson (wellFormed.tools tools given tool mem)
    responseFormat := Except.ok.inj (kept.symm.trans formatRead)
    stream := ⟨_, readPresent_normalize_toJson held.stream (fun _ _ null => by cases null)
      fun _ _ => rfl, rfl⟩ }

/-- Both decoders read a well-formed request back from its document. -/
theorem WellFormed.ofBody_normalize_toJson (wellFormed : request.WellFormed) :
    ofBody request.toJson.normalize = .ok request := by
  have held := request.heldBy_members
  refine (ofBody_eq_ok_iff_writtenBy ?_ ?_ ?_).2 wellFormed.writtenBy
  · rw [member?_normalize_toJson]
    rfl
  · rw [present?, member?_normalize_toJson, held.secondLimit]
    rfl
  · rw [present?, member?_normalize_toJson, held.functions]
    rfl

theorem WellFormed.ofJson_normalize_toJson (wellFormed : request.WellFormed) :
    ofJson request.toJson.normalize = .ok request := by
  have formed := wellFormed.normalize_toJson
  have written := wellFormed.writtenBy
  have stream := member?_normalize_toJson request "stream"
  rw [request.heldBy_members.stream] at stream
  rw [toJson_eq, Json.normalize] at formed written stream ⊢
  refine (ofJson_eq_ok_iff_writtenBy formed ?_).2 written
  intro null
  cases stream.symm.trans null

/-- A body in the form in which its request is written. -/
def normalBody (body : Json) : Except BodyFault Json :=
  (fun request => request.toJson.normalize) <$> ofBody body

/-- Let a request be read from a well-formed body and written as a document. Both decoders read it back from
there as it was, the flag included, and with its canonical text. No other request that is read from a
well-formed body is written as that document, and a body is in its normal form once it has been put into
it. -/
theorem read_back_from_document {body : Json} (wellFormed : body.WellFormed) {request : Request}
    (read : ofBody body = .ok request) :
    ofBody request.toJson.normalize = .ok request ∧
    ofJson request.toJson.normalize = .ok request ∧
    canonicalText <$> ofBody request.toJson.normalize = .ok request.canonicalText ∧
    canonicalText <$> ofJson request.toJson.normalize = .ok request.canonicalText ∧
    (∀ body' request', body'.WellFormed → ofBody body' = .ok request' →
      request'.toJson.normalize = request.toJson.normalize → request' = request) ∧
    normalBody body >>= normalBody = normalBody body := by
  have formed := wellFormed_of_ofBody wellFormed read
  have again := formed.ofBody_normalize_toJson
  have decoded := formed.ofJson_normalize_toJson
  refine ⟨again, decoded, by rw [again]; rfl, by rw [decoded]; rfl, ?_, ?_⟩
  · intro body' request' wellFormed' read' same
    have again' := (wellFormed_of_ofBody wellFormed' read').ofBody_normalize_toJson
    rw [same, again] at again'
    exact (Except.ok.inj again').symm
  · have normal : normalBody body = .ok request.toJson.normalize := by
      rw [normalBody, read]
      rfl
    have normalAgain : normalBody request.toJson.normalize = .ok request.toJson.normalize := by
      rw [normalBody, again]
      rfl
    rw [normal]
    exact normalAgain

/-- A body of an old client with a list of parts, a call of a tool, and further members. -/
def spokenBody : Json :=
  .object [("functions", .array [.object [("name", .string "f"),
      ("parameters", .object [("type", .string "object")]), ("strict", .bool true)]]),
    ("max_completion_tokens", .number (.integer 64)),
    ("messages", .array [.object [("content", .array [.object [("text", .string "Hi")]]),
        ("name", .string "Ada"), ("role", .string "user")],
      .object [("role", .string "assistant"), ("tool_calls", .array [.object [("id", .string "1")]])]]),
    ("model", .string "m"), ("stream", .bool true), ("temperature", .ofBinary64 .one)]

/-- The request of that body. -/
def spokenRequest : Request where
  model := "m"
  messages := [⟨.user, some (.parts [.object [("text", .string "Hi")]]), [("name", .string "Ada")]⟩,
    ⟨.assistant, none, [("tool_calls", .array [.object [("id", .string "1")]])]⟩]
  temperature := some .one
  maxTokens := some 64
  topP := none
  tools := some [⟨"function", ⟨"f", none, some (.object [("type", .string "object")]),
    [("strict", .bool true)]⟩⟩]
  responseFormat := none
  stream := true

/-- The request is written in another way than the body, and read back all the same. -/
theorem read_back_from_document_spoken :
    spokenBody.WellFormed ∧ ofBody spokenBody = .ok spokenRequest ∧
    spokenRequest.toJson.normalize ≠ spokenBody ∧
    ofBody spokenRequest.toJson.normalize = .ok spokenRequest ∧
    ofJson spokenRequest.toJson.normalize = .ok spokenRequest ∧
    normalBody spokenBody >>= normalBody = normalBody spokenBody := by
  have wellFormed : spokenBody.WellFormed := by decide
  have read : ofBody spokenBody = .ok spokenRequest := rfl
  obtain ⟨again, decoded, -, -, -, normal⟩ := read_back_from_document wellFormed read
  exact ⟨wellFormed, read, by decide, again, decoded, normal⟩

end Request

end CompletionCache
