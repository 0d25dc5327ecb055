import CompletionCache.Proofs.Json.Record
import CompletionCache.Request.Body

/-!
# Requests read from bodies are well-formed

Whatever a request takes from a well-formed body is well-formed again: its documents are in their
normal form, the further members of its messages and functions stand in order and shadow no field,
its numbers are finite, and no document that is present is null (`wellFormed_of_ofBody`).
-/

set_option autoImplicit false

namespace CompletionCache

open Json (Collected Mismatch)

/-! ## Parts of a request -/

/-- A content whose parts are well-formed. -/
def Content.WellFormed : Content → Prop
  | text _ => True
  | parts items => ∀ item ∈ items, item.WellFormed

/-- A message whose content is well-formed and whose further members shadow no field. -/
structure Message.WellFormed (message : Message) : Prop where
  content : ∀ content, message.content = some content → content.WellFormed
  extra : Collected Message.layout.names message.extra

/-- A document that is present: well-formed, and not null, which stands for an absent one. -/
structure Json.Present (v : Json) : Prop where
  wellFormed : v.WellFormed
  notNull : v ≠ .null

/-- A function whose parameters are well-formed and whose further members shadow no field. -/
structure Function.WellFormed (function : Function) : Prop where
  parameters : ∀ parameters, function.parameters = some parameters → parameters.Present
  extra : Collected Function.layout.names function.extra

/-- A request made of well-formed parts. -/
structure Request.WellFormed (request : Request) : Prop where
  messages : ∀ message ∈ request.messages, message.WellFormed
  temperature : ∀ x, request.temperature = some x → x.isFinite = true
  topP : ∀ x, request.topP = some x → x.isFinite = true
  tools : ∀ tools, request.tools = some tools → ∀ tool ∈ tools, tool.function.WellFormed
  responseFormat : ∀ v, request.responseFormat = some v → v.Present

/-! ## Messages -/

theorem Content.wellFormed_of_ofJson {v : Json} {content : Content} (printable : v.Printable)
    (ok : Content.ofJson v = .ok content) : content.WellFormed := by
  cases v with
  | string value =>
    cases ok
    trivial
  | array items =>
    cases ok
    intro item mem
    rw [Json.normalizeItems_eq_map] at mem
    obtain ⟨given, inItems, rfl⟩ := List.mem_map.1 mem
    exact Json.wellFormed_normalize (Json.printable_array_iff.1 printable given inItems)
  | _ => cases ok

theorem Message.wellFormed_of_ofJson {v : Json} {message : Message} (printable : v.Printable)
    (ok : Message.ofJson v = .ok message) : message.WellFormed := by
  obtain ⟨record, read, ok⟩ := Json.bind_eq_ok.1 ok
  obtain ⟨role, -, ok⟩ := Json.bind_eq_ok.1 ok
  obtain ⟨content, contentRead, ok⟩ := Json.bind_eq_ok.1 ok
  cases ok
  -- A content is normalised while it is read, and the further members while they are collected.
  have parts := Json.printable_of_record read printable
  refine ⟨?_, Json.layout_of_record read ▸ Json.collected_others parts⟩
  intro value given
  rcases Json.field?_eq_ok.1 contentRead with ⟨-, rfl⟩ | ⟨w, inner, found, option, rfl⟩
  · cases given
  · rcases Json.readOption_eq_ok.1 option with ⟨-, rfl⟩ | ⟨-, content, read, rfl⟩
    · cases given
    · cases given
      exact Content.wellFormed_of_ofJson (parts _ (Json.mem_of_find? found)) read

/-! ## Functions and tools -/

theorem Json.present_of_readOption {v : Json} {value : Option Json} (printable : v.Printable)
    (ok : Json.readOption Json.readAny v = .ok value) : ∀ w, value = some w → w.Present := by
  rintro w rfl
  rcases Json.readOption_eq_ok.1 ok with ⟨-, absent⟩ | ⟨notNull, inner, read, some⟩
  · cases absent
  · cases some
    cases read
    refine ⟨Json.wellFormed_normalize printable, ?_⟩
    cases v with
    | null => exact absurd rfl notNull
    | _ => simp [Json.normalize]

theorem Function.wellFormed_of_ofJson {v : Json} {function : Function} (printable : v.Printable)
    (ok : Function.ofJson v = .ok function) : function.WellFormed := by
  obtain ⟨record, read, ok⟩ := Json.bind_eq_ok.1 ok
  obtain ⟨name, -, ok⟩ := Json.bind_eq_ok.1 ok
  obtain ⟨description, -, ok⟩ := Json.bind_eq_ok.1 ok
  obtain ⟨parameters, parametersRead, ok⟩ := Json.bind_eq_ok.1 ok
  cases ok
  have parts := Json.printable_of_record read printable
  refine ⟨?_, Json.layout_of_record read ▸ Json.collected_others parts⟩
  rcases Json.field?_eq_ok.1 parametersRead with ⟨-, rfl⟩ | ⟨w, inner, found, option, rfl⟩
  · intro value impossible
    cases impossible
  · exact Json.present_of_readOption (parts _ (Json.mem_of_find? found)) option

theorem Tool.wellFormed_of_ofJson {v : Json} {tool : Tool} (printable : v.Printable)
    (ok : Tool.ofJson v = .ok tool) : tool.function.WellFormed := by
  obtain ⟨record, read, ok⟩ := Json.bind_eq_ok.1 ok
  obtain ⟨type, -, ok⟩ := Json.bind_eq_ok.1 ok
  obtain ⟨function, functionRead, ok⟩ := Json.bind_eq_ok.1 ok
  obtain ⟨-, -, ok⟩ := Json.bind_eq_ok.1 ok
  cases ok
  obtain ⟨w, found, readFunction⟩ := Json.field_eq_ok functionRead
  exact Function.wellFormed_of_ofJson
    (Json.printable_of_record read printable _ (Json.mem_of_find? found)) readFunction

/-! ## Parameters of a body -/

namespace Request

/-- What holds of every item that can be read holds of all items of a list. -/
theorem forall_of_readList {α : Type} {read : Json → Except Mismatch α} {P : α → Prop}
    (each : ∀ {v : Json} {value : α}, v.Printable → read v = .ok value → P value) {v : Json}
    {values : List α} (printable : v.Printable) (ok : Json.readList read v = .ok values) :
    ∀ value ∈ values, P value := by
  obtain ⟨items, rfl, read⟩ := Json.readList_eq_ok ok
  have parts := Json.printable_array_iff.1 printable
  clear ok printable
  induction read with
  | nil =>
    intro value mem
    cases mem
  | cons one others ih =>
    intro value mem
    rcases List.mem_cons.1 mem with rfl | mem
    · exact each (parts _ List.mem_cons_self) one
    · exact ih (fun item mem => parts item (List.mem_cons_of_mem _ mem)) value mem

variable {body : Json}

theorem mem_of_present? {name : String} {v : Json} (present : present? body name = some v) :
    body.member? name = some v ∧ v ≠ .null := by
  rw [present?, Option.filter_eq_some_iff] at present
  exact ⟨present.1, by simpa using present.2⟩

theorem present_of_present? (wellFormed : body.WellFormed) {name : String} {v : Json}
    (present : present? body name = some v) : v.Present := by
  obtain ⟨found, notNull⟩ := mem_of_present? present
  exact ⟨wellFormed.member? found, notNull⟩

theorem isFinite_of_printable {n : Number} (printable : n.Printable) :
    n.toBinary64.isFinite = true := by
  cases n with
  | integer value =>
    obtain ⟨low, high⟩ := printable
    apply Binary64.isFinite_ofInt
    rw [Number.leastInteger] at low
    rw [Number.greatestInteger] at high
    omega
  | real value => exact printable

theorem isFinite_of_bodyNumber (wellFormed : body.WellFormed) {name : String}
    {number : Option Binary64} (ok : bodyNumber body name = .ok number) :
    ∀ x, number = some x → x.isFinite = true := by
  rintro x rfl
  rw [bodyNumber] at ok
  cases found : present? body name with
  | none =>
    rw [found] at ok
    cases ok
  | some v =>
    rw [found] at ok
    have printable := (present_of_present? wellFormed found).wellFormed.printable
    cases v with
    | number n =>
      cases ok
      exact isFinite_of_printable (printable n (by simp [Json.numbers]))
    | _ => cases ok

theorem wellFormed_of_bodyMessages (wellFormed : body.WellFormed) {messages : List Message}
    (ok : bodyMessages body = .ok messages) : ∀ message ∈ messages, message.WellFormed := by
  rw [bodyMessages] at ok
  cases found : body.member? "messages" with
  | none =>
    rw [found] at ok
    cases ok
    intro message mem
    cases mem
  | some v =>
    rw [found] at ok
    exact forall_of_readList Message.wellFormed_of_ofJson (wellFormed.member? found).printable
      (Json.mapError_eq_ok.1 ok)

theorem wellFormed_of_bodyTools (wellFormed : body.WellFormed) {tools : Option (List Tool)}
    (ok : bodyTools body = .ok tools) :
    ∀ list, tools = some list → ∀ tool ∈ list, tool.function.WellFormed := by
  rintro list rfl
  rw [bodyTools] at ok
  cases found : present? body "tools" with
  | some v =>
    rw [found] at ok
    obtain ⟨read, readList, same⟩ := Json.map_eq_ok.1 (Json.mapError_eq_ok.1 ok)
    cases same
    exact forall_of_readList Tool.wellFormed_of_ofJson
      (present_of_present? wellFormed found).wellFormed.printable readList
  | none =>
    rw [found] at ok
    -- Functions stand in for tools only where there are none.
    cases second : present? body "functions" with
    | some v =>
      rw [second] at ok
      obtain ⟨functions, readList, same⟩ := Json.map_eq_ok.1 (Json.mapError_eq_ok.1 ok)
      cases same
      intro tool mem
      obtain ⟨function, listed, rfl⟩ := List.mem_map.1 mem
      exact forall_of_readList Function.wellFormed_of_ofJson
        (present_of_present? wellFormed second).wellFormed.printable readList function listed
    | none =>
      rw [second] at ok
      cases ok

/-- A request read from a well-formed body is made of well-formed parts. -/
theorem wellFormed_of_ofBody (wellFormed : body.WellFormed) {request : Request}
    (ok : ofBody body = .ok request) : request.WellFormed := by
  unfold ofBody at ok
  cases model : (body.member? "model").bind Json.string? with
  | none =>
    rw [model] at ok
    cases ok
  | some name =>
    rw [model] at ok
    obtain ⟨messages, messagesRead, ok⟩ := Json.bind_eq_ok.1 ok
    obtain ⟨maxTokens, -, ok⟩ := Json.bind_eq_ok.1 ok
    obtain ⟨tools, toolsRead, ok⟩ := Json.bind_eq_ok.1 ok
    obtain ⟨temperature, temperatureRead, ok⟩ := Json.bind_eq_ok.1 ok
    obtain ⟨topP, topPRead, ok⟩ := Json.bind_eq_ok.1 ok
    obtain ⟨stream, -, ok⟩ := Json.bind_eq_ok.1 ok
    cases ok
    exact {
      messages := wellFormed_of_bodyMessages wellFormed messagesRead
      temperature := isFinite_of_bodyNumber wellFormed temperatureRead
      topP := isFinite_of_bodyNumber wellFormed topPRead
      tools := wellFormed_of_bodyTools wellFormed toolsRead
      responseFormat := fun v => present_of_present? wellFormed }

end Request

end CompletionCache
