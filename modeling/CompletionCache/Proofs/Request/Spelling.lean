import CompletionCache.Proofs.Request.CanonicalText

/-!
# What a request keeps of its messages and tools

A message and a function keep every member of their documents: two documents that are read as one
message, or as one function, differ in spelling alone (`Message.speltAlike_of_ofJson`,
`Function.speltAlike_of_ofJson`). A tool keeps its type and its function and nothing else, so a further
member of a tool reaches neither the request nor its canonical text (`ofBody_strictTool`).
-/

set_option autoImplicit false

namespace CompletionCache

open Json (Mismatch find?)

/-! ## Records -/

namespace Json

theorem find?_filter (keep : String → Bool) {name : String} (kept : keep name = true)
    (members : Members) :
    find? name (members.filter fun member => keep member.1) = find? name members := by
  induction members with
  | nil => rfl
  | cons member members ih =>
    obtain ⟨other, value⟩ := member
    by_cases same : other = name
    · subst same
      rw [List.filter_cons, if_pos kept, find?, find?, if_pos rfl, if_pos rfl]
    · rw [List.filter_cons]
      split_ifs
      · rw [find?, find?, if_neg same, if_neg same, ih]
      · rw [find?, if_neg same, ih]

/-- A member that is no field is kept as it is. -/
theorem find?_others {layout : Layout} {members : Members} {listed : Option Nat}
    (wellFormed : (object members).WellFormed) {name : String} (further : name ∉ layout.names) :
    find? name (Record.others ⟨layout, members, listed⟩) = find? name members := by
  obtain ⟨ascending, each⟩ := wellFormed_object_iff.1 wellFormed
  have unchecked : (layout.check? name).isNone = true := by
    rw [check?_eq_none_iff.2 further]
    rfl
  have normal : ∀ member ∈ members.filter fun member => (layout.check? member.1).isNone,
      member.2.normalize = member.2 :=
    fun member mem => (each member (List.mem_of_mem_filter mem)).normal
  -- The other members are put in normal form and in order, which they already are.
  rw [Record.others, normalizeMembers_eq_self normal,
    sortMembers_of_ascending (ascending.filter _)]
  exact find?_filter (fun name => (layout.check? name).isNone) unchecked members

/-- A record that takes in further members is written as an object. -/
theorem record_collected_eq_ok {layout : Layout} (collected : layout.others = .collected) {v : Json}
    {record : Record} (ok : layout.record v = .ok record) :
    ∃ members, v = object members ∧ record = ⟨layout, members, none⟩ := by
  cases v with
  | object members => exact ⟨members, rfl, record_object_eq_ok ok⟩
  | array items =>
    rw [Layout.record, if_pos collected] at ok
    cases ok
  | _ => cases ok

/-- A text is read from its own document. -/
theorem string_of_readText {v : Json} {text : String} (read : readText v = .ok text) :
    string text = v := by
  cases v with
  | string other =>
    cases read
    rfl
  | _ => cases read

/-- A value that may be null is present when it is not. -/
theorem present?_of_field? {α : Type} {layout : Layout} {members : Members} {name : String}
    {read : Json → Except Mismatch α} {write : α → Json} {value : Option (Option α)}
    (back : ∀ {v : Json} {a : α}, find? name members = some v → read v = .ok a → write a = v)
    (ok : Record.field? ⟨layout, members, none⟩ name (readOption read) = .ok value) :
    Request.present? (object members) name = value.join.map write := by
  rw [Request.present?, member?]
  rcases field?_eq_ok.1 ok with ⟨absent, rfl⟩ | ⟨v, inner, found, option, rfl⟩
  · dsimp only at absent
    rw [absent]
    rfl
  · dsimp only at found
    rw [found]
    rcases readOption_eq_ok.1 option with ⟨rfl, rfl⟩ | ⟨notNull, a, parsed, rfl⟩
    · rfl
    · rw [Option.filter_some, if_pos (by simpa using notNull)]
      exact congrArg some (back found parsed).symm

end Json

/-! ## Messages -/

/-- The name of a role, however it is written. -/
def Role.plain : Json → Json
  | .object [(name, .null)] => .string name
  | other => other

theorem Role.name_of_ofName {name : String} {role : Role} (ok : Role.ofName name = .ok role) :
    role.name = name := by
  rw [ofName] at ok
  cases found : all.find? (·.name == name) with
  | none =>
    rw [found] at ok
    cases ok
  | some other =>
    rw [found] at ok
    cases ok
    have same := List.find?_some found
    exact eq_of_beq same

theorem Role.plain_of_ofJson {v : Json} {role : Role} (ok : Role.ofJson v = .ok role) :
    Role.plain v = role.toJson := by
  cases v with
  | string name => exact congrArg Json.string (name_of_ofName ok).symm
  | object members =>
    match members, ok with
    | [(name, value)], ok =>
      obtain ⟨named, read, ok⟩ := Json.bind_eq_ok.1 ok
      cases value with
      | null =>
        cases ok
        exact congrArg Json.string (name_of_ofName read).symm
      | _ => cases ok
  | _ => cases ok

theorem Content.toJson_of_ofJson {v : Json} {content : Content} (wellFormed : v.WellFormed)
    (ok : Content.ofJson v = .ok content) : content.toJson = v := by
  cases v with
  | string value =>
    cases ok
    rfl
  | array items =>
    cases ok
    exact wellFormed.normal
  | _ => cases ok

namespace Message

/-- Two documents of messages that differ in spelling alone: in how the role is written, and in whether
an absent content is written as null. -/
structure SpeltAlike (v v' : Json) : Prop where
  role : (v.member? "role").map Role.plain = (v'.member? "role").map Role.plain
  content : Request.present? v "content" = Request.present? v' "content"
  others : ∀ name, name ∉ layout.names → v.member? name = v'.member? name

/-- A message tells everything about its document but the spelling. -/
theorem members_of_ofJson {v : Json} (wellFormed : v.WellFormed) {message : Message}
    (ok : Message.ofJson v = .ok message) :
    (v.member? "role").map Role.plain = some message.role.toJson ∧
      Request.present? v "content" = message.content.map Content.toJson ∧
      ∀ name, name ∉ layout.names → v.member? name = find? name message.extra := by
  obtain ⟨record, recordRead, ok⟩ := Json.bind_eq_ok.1 ok
  obtain ⟨members, rfl, rfl⟩ := Json.record_collected_eq_ok rfl recordRead
  obtain ⟨role, roleRead, ok⟩ := Json.bind_eq_ok.1 ok
  obtain ⟨content, contentRead, ok⟩ := Json.bind_eq_ok.1 ok
  cases ok
  obtain ⟨w, found, read⟩ := Json.field_eq_ok roleRead
  refine ⟨?_, ?_, ?_⟩
  · rw [Json.member?, found]
    exact congrArg some (Role.plain_of_ofJson read)
  · refine Json.present?_of_field? ?_ contentRead
    intro v content found read
    exact Content.toJson_of_ofJson (wellFormed.member? found) read
  · intro name further
    exact (Json.find?_others wellFormed further).symm

/-- Documents that are read as one message differ in spelling alone. -/
theorem speltAlike_of_ofJson {v v' : Json} {message : Message} (wellFormed : v.WellFormed)
    (wellFormed' : v'.WellFormed) (ok : Message.ofJson v = .ok message)
    (ok' : Message.ofJson v' = .ok message) : SpeltAlike v v' := by
  obtain ⟨role, content, others⟩ := members_of_ofJson wellFormed ok
  obtain ⟨role', content', others'⟩ := members_of_ofJson wellFormed' ok'
  exact ⟨role.trans role'.symm, content.trans content'.symm,
    fun name further => (others name further).trans (others' name further).symm⟩

end Message

/-! ## Functions and tools -/

namespace Function

/-- Two documents of functions that differ in spelling alone: in whether an absent description or
absent parameters are written as null. -/
structure SpeltAlike (v v' : Json) : Prop where
  name : v.member? "name" = v'.member? "name"
  description : Request.present? v "description" = Request.present? v' "description"
  parameters : Request.present? v "parameters" = Request.present? v' "parameters"
  others : ∀ name, name ∉ layout.names → v.member? name = v'.member? name

/-- A function tells everything about its document but the spelling. -/
theorem members_of_ofJson {v : Json} (wellFormed : v.WellFormed) {function : Function}
    (ok : Function.ofJson v = .ok function) :
    v.member? "name" = some (.string function.name) ∧
      Request.present? v "description" = function.description.map Json.string ∧
      Request.present? v "parameters" = function.parameters.map id ∧
      ∀ name, name ∉ layout.names → v.member? name = find? name function.extra := by
  obtain ⟨record, recordRead, ok⟩ := Json.bind_eq_ok.1 ok
  obtain ⟨members, rfl, rfl⟩ := Json.record_collected_eq_ok rfl recordRead
  obtain ⟨name, nameRead, ok⟩ := Json.bind_eq_ok.1 ok
  obtain ⟨description, descriptionRead, ok⟩ := Json.bind_eq_ok.1 ok
  obtain ⟨parameters, parametersRead, ok⟩ := Json.bind_eq_ok.1 ok
  cases ok
  obtain ⟨w, found, read⟩ := Json.field_eq_ok nameRead
  refine ⟨?_, ?_, ?_, ?_⟩
  · rw [Json.member?, found, Json.string_of_readText read]
  · exact Json.present?_of_field? (fun _ read => Json.string_of_readText read) descriptionRead
  · refine Json.present?_of_field? ?_ parametersRead
    intro v value found read
    cases read
    exact (wellFormed.member? found).normal
  · intro name further
    exact (Json.find?_others wellFormed further).symm

/-- Documents that are read as one function differ in spelling alone. -/
theorem speltAlike_of_ofJson {v v' : Json} {function : Function} (wellFormed : v.WellFormed)
    (wellFormed' : v'.WellFormed) (ok : Function.ofJson v = .ok function)
    (ok' : Function.ofJson v' = .ok function) : SpeltAlike v v' := by
  obtain ⟨name, description, parameters, others⟩ := members_of_ofJson wellFormed ok
  obtain ⟨name', description', parameters', others'⟩ := members_of_ofJson wellFormed' ok'
  exact ⟨name.trans name'.symm, description.trans description'.symm,
    parameters.trans parameters'.symm,
    fun name further => (others name further).trans (others' name further).symm⟩

end Function

namespace Tool

/-- The value of a member of a tool: one that is written as a list has its type in front of its
function. -/
def member? (name : String) : Json → Option Json
  | .array [type, function] => find? name [("type", type), ("function", function)]
  | v => v.member? name

/-- Two documents of tools that have one type and whose functions differ in spelling alone. -/
structure FieldsAlike (v v' : Json) : Prop where
  type : member? "type" v = member? "type" v'
  function : ∃ f f', member? "function" v = some f ∧ member? "function" v' = some f' ∧
    Function.SpeltAlike f f'

/-- Two documents of tools that differ in spelling alone. -/
structure SpeltAlike (v v' : Json) : Prop extends FieldsAlike v v' where
  others : ∀ name, name ∉ layout.names → member? name v = member? name v'

/-- A document of a tool with no member but its type and its function. -/
def Bare (v : Json) : Prop := ∀ name, name ∉ layout.names → member? name v = none

/-- A list that is read as a tool has a type and a function and nothing else. -/
theorem items_of_record {items : List Json} {record : Json.Record} {type : String}
    {function : Function} (ok : layout.record (.array items) = .ok record)
    (typeRead : record.field "type" Json.readText = .ok type)
    (functionRead : record.field "function" Function.ofJson = .ok function)
    (closed : record.close = .ok ()) :
    ∃ first second, items = [first, second] ∧
      record.members = [("type", first), ("function", second)] := by
  obtain ⟨-, -, ok⟩ := Json.bind_eq_ok.1 ok
  cases ok
  obtain ⟨v, found, -⟩ := Json.field_eq_ok functionRead
  -- A shorter list lacks the function, and a longer one is not closed.
  match items with
  | [] => cases found
  | [_] => cases found
  | [first, second] => exact ⟨first, second, rfl, rfl⟩
  | _ :: _ :: _ :: _ =>
    rw [Json.Record.close] at closed
    cases closed

/-- A tool tells the type and the function of its document. -/
theorem members_of_ofJson {v : Json} (wellFormed : v.WellFormed) {tool : Tool}
    (ok : Tool.ofJson v = .ok tool) :
    member? "type" v = some (.string tool.type) ∧
      ∃ f, member? "function" v = some f ∧ f.WellFormed ∧ Function.ofJson f = .ok tool.function := by
  obtain ⟨record, recordRead, ok⟩ := Json.bind_eq_ok.1 ok
  obtain ⟨type, typeRead, ok⟩ := Json.bind_eq_ok.1 ok
  obtain ⟨function, functionRead, ok⟩ := Json.bind_eq_ok.1 ok
  obtain ⟨⟨⟩, closed, ok⟩ := Json.bind_eq_ok.1 ok
  cases ok
  obtain ⟨t, typeFound, typeText⟩ := Json.field_eq_ok typeRead
  obtain ⟨f, functionFound, read⟩ := Json.field_eq_ok functionRead
  obtain rfl := Json.string_of_readText typeText
  cases v with
  | object members =>
    cases Json.record_object_eq_ok recordRead
    exact ⟨typeFound, f, functionFound, wellFormed.member? functionFound, read⟩
  | array items =>
    obtain ⟨first, second, rfl, members⟩ :=
      items_of_record recordRead typeRead functionRead closed
    rw [members] at typeFound functionFound
    cases functionFound
    exact ⟨typeFound, f, rfl, Json.wellFormed_array_iff.1 wellFormed f (by simp), read⟩
  | _ => cases recordRead

/-- Documents that are read as one tool have one type and one function, and if they have nothing else
they differ in spelling alone. -/
theorem speltAlike_of_ofJson {v v' : Json} {tool : Tool} (wellFormed : v.WellFormed)
    (wellFormed' : v'.WellFormed) (ok : Tool.ofJson v = .ok tool) (ok' : Tool.ofJson v' = .ok tool) :
    FieldsAlike v v' ∧ (Bare v → Bare v' → SpeltAlike v v') := by
  obtain ⟨type, f, function, formed, read⟩ := members_of_ofJson wellFormed ok
  obtain ⟨type', f', function', formed', read'⟩ := members_of_ofJson wellFormed' ok'
  have fields : FieldsAlike v v' := ⟨type.trans type'.symm, f, f', function, function',
    Function.speltAlike_of_ofJson formed formed' read read'⟩
  exact ⟨fields, fun bare bare' =>
    ⟨fields, fun name further => (bare name further).trans (bare' name further).symm⟩⟩

end Tool

/-! ## Requests -/

/-- Two documents of lists whose items are related one by one. -/
def ItemsAlike (Related : Json → Json → Prop) (v v' : Json) : Prop :=
  ∃ items items', v = .array items ∧ v' = .array items' ∧ List.Forall₂ Related items items'

/-- Lists that are read as the same values agree item by item, if two documents of one value do. -/
theorem itemsAlike_of_readList {α : Type} {read : Json → Except Mismatch α}
    {Related : Json → Json → Prop}
    (each : ∀ {v v' : Json} {value : α}, v.WellFormed → v'.WellFormed → read v = .ok value →
      read v' = .ok value → Related v v') {v v' : Json} {values : List α}
    (wellFormed : v.WellFormed) (wellFormed' : v'.WellFormed)
    (ok : Json.readList read v = .ok values) (ok' : Json.readList read v' = .ok values) :
    ItemsAlike Related v v' := by
  obtain ⟨items, rfl, reads⟩ := Json.readList_eq_ok ok
  obtain ⟨items', rfl, reads'⟩ := Json.readList_eq_ok ok'
  refine ⟨items, items', rfl, rfl, ?_⟩
  rw [Json.wellFormed_array_iff] at wellFormed wellFormed'
  clear ok ok'
  induction reads generalizing items' with
  | nil =>
    cases reads'
    exact .nil
  | cons one others ih =>
    cases reads' with
    | cons one' others' =>
      exact .cons
        (each (wellFormed _ List.mem_cons_self) (wellFormed' _ List.mem_cons_self) one one')
        (ih (fun item mem => wellFormed item (List.mem_cons_of_mem _ mem)) _ others'
          fun item mem => wellFormed' item (List.mem_cons_of_mem _ mem))

namespace Request

/-- The messages and the tools of a request are those of its body. -/
theorem bodyParts_of_ofBody {body : Json} {request : Request} (ok : ofBody body = .ok request) :
    bodyMessages body = .ok request.messages ∧ bodyTools body = .ok request.tools := by
  unfold ofBody at ok
  cases model : (body.member? "model").bind Json.string? with
  | none =>
    rw [model] at ok
    cases ok
  | some name =>
    rw [model] at ok
    obtain ⟨messages, messagesRead, ok⟩ := Json.bind_eq_ok.1 ok
    obtain ⟨maxTokens, -, ok⟩ := Json.bind_eq_ok.1 ok
    obtain ⟨tools, toolsRead, ok⟩ := Json.bind_eq_ok.1 ok
    obtain ⟨temperature, -, ok⟩ := Json.bind_eq_ok.1 ok
    obtain ⟨topP, -, ok⟩ := Json.bind_eq_ok.1 ok
    obtain ⟨stream, -, ok⟩ := Json.bind_eq_ok.1 ok
    cases ok
    exact ⟨messagesRead, toolsRead⟩

theorem readList_of_messages {body : Json} {request : Request} (ok : ofBody body = .ok request)
    {v : Json} (given : body.member? "messages" = some v) :
    Json.readList Message.ofJson v = .ok request.messages := by
  have read := (bodyParts_of_ofBody ok).1
  rw [bodyMessages, given] at read
  exact Json.mapError_eq_ok.1 read

theorem readList_of_tools {body : Json} {request : Request} (ok : ofBody body = .ok request)
    {v : Json} (given : present? body "tools" = some v) :
    ∃ tools, request.tools = some tools ∧ Json.readList Tool.ofJson v = .ok tools := by
  have read := (bodyParts_of_ofBody ok).2
  rw [bodyTools, given] at read
  obtain ⟨tools, list, same⟩ := Json.map_eq_ok.1 (Json.mapError_eq_ok.1 read)
  exact ⟨tools, same.symm, list⟩

theorem wellFormed_of_present? {body v : Json} (wellFormed : body.WellFormed) {name : String}
    (given : present? body name = some v) : v.WellFormed :=
  wellFormed.member? (Option.filter_eq_some_iff.1 given).1

/-- Bodies whose requests have the same messages have messages that differ in spelling alone. Bodies
whose requests have the same tools have tools of the same types and functions, and these differ in
spelling alone where they have no other member. Requests of one canonical text have both in common. -/
theorem speltAlike_of_same {body body' : Json} (wellFormed : body.WellFormed)
    (wellFormed' : body'.WellFormed) {request request' : Request}
    (read : ofBody body = .ok request) (read' : ofBody body' = .ok request') :
    (∀ v v', body.member? "messages" = some v → body'.member? "messages" = some v' →
      request.messages = request'.messages → ItemsAlike Message.SpeltAlike v v') ∧
    (∀ v v', present? body "tools" = some v → present? body' "tools" = some v' →
      request.tools = request'.tools →
      ItemsAlike (fun tool tool' => Tool.FieldsAlike tool tool' ∧
        (Tool.Bare tool → Tool.Bare tool' → Tool.SpeltAlike tool tool')) v v') ∧
    (request.canonicalText = request'.canonicalText →
      request.messages = request'.messages ∧ request.tools = request'.tools) := by
  refine ⟨?_, ?_, ?_⟩
  · intro v v' given given' same
    have list := readList_of_messages read given
    rw [same] at list
    exact itemsAlike_of_readList Message.speltAlike_of_ofJson (wellFormed.member? given)
      (wellFormed'.member? given') list (readList_of_messages read' given')
  · intro v v' given given' same
    obtain ⟨tools, decoded, list⟩ := readList_of_tools read given
    obtain ⟨tools', decoded', list'⟩ := readList_of_tools read' given'
    rw [decoded, decoded'] at same
    cases same
    exact itemsAlike_of_readList Tool.speltAlike_of_ofJson (wellFormed_of_present? wellFormed given)
      (wellFormed_of_present? wellFormed' given') list list'
  · -- A canonical text tells the form that it writes, and with it the messages and the tools.
    intro text
    have formed := wellFormed_of_ofBody wellFormed read
    have formed' := wellFormed_of_ofBody wellFormed' read'
    have agree := formed.agree_of_canonicalForm_eq formed'
      (Json.text_injective formed.canonicalForm.printable formed'.canonicalForm.printable text)
    exact ⟨agree.messages, agree.tools⟩

/-- A tool with a type and a function. -/
def plainTool : Json :=
  .object [("function", .object [("name", .string "f")]), ("type", .string "function")]

/-- The tool with a member of its own. -/
def strictTool : Json :=
  .object [("function", .object [("name", .string "f")]), ("strict", .bool true),
    ("type", .string "function")]

/-- The tool as a list, with a description of null. -/
def listedTool : Json :=
  .array [.string "function", .object [("description", .null), ("name", .string "f")]]

/-- A message of which only a name is given. -/
def plainMessage : Json := .object [("name", .string "Ada"), ("role", .string "user")]

/-- The message with a content of null and a role that is written as an object. -/
def respeltMessage : Json :=
  .object [("content", .null), ("name", .string "Ada"), ("role", .object [("user", .null)])]

/-- A body with one message and one tool. -/
def bodyOf (message tool : Json) : Json :=
  .object [("messages", .array [message]), ("model", .string "m"), ("tools", .array [tool])]

/-- The request of such a body. -/
def toolRequest : Request where
  model := "m"
  messages := [⟨.user, none, [("name", .string "Ada")]⟩]
  temperature := none
  maxTokens := none
  topP := none
  tools := some [⟨"function", ⟨"f", none, none, []⟩⟩]
  responseFormat := none
  stream := false

/-- Two bodies of different spelling are read as one request. -/
theorem speltAlike_bodyOf :
    bodyOf plainMessage plainTool ≠ bodyOf respeltMessage listedTool ∧
      ofBody (bodyOf plainMessage plainTool) = .ok toolRequest ∧
      ofBody (bodyOf respeltMessage listedTool) = .ok toolRequest ∧
      ItemsAlike Message.SpeltAlike (.array [plainMessage]) (.array [respeltMessage]) ∧
      ItemsAlike Tool.SpeltAlike (.array [plainTool]) (.array [listedTool]) := by
  have read : ofBody (bodyOf plainMessage plainTool) = .ok toolRequest := rfl
  have read' : ofBody (bodyOf respeltMessage listedTool) = .ok toolRequest := rfl
  obtain ⟨messages, tools, -⟩ := speltAlike_of_same (by decide) (by decide) read read'
  have apart : ∀ {name}, name ∉ Tool.layout.names → "type" ≠ name ∧ "function" ≠ name := by
    intro name further
    refine ⟨?_, ?_⟩
    · rintro rfl
      exact further (by decide)
    · rintro rfl
      exact further (by decide)
  have bare : Tool.Bare plainTool := by
    intro name further
    obtain ⟨notType, notFunction⟩ := apart further
    show find? name [("function", _), ("type", _)] = none
    rw [find?, if_neg notFunction, find?, if_neg notType, find?]
  have bare' : Tool.Bare listedTool := by
    intro name further
    obtain ⟨notType, notFunction⟩ := apart further
    show find? name [("type", _), ("function", _)] = none
    rw [find?, if_neg notType, find?, if_neg notFunction, find?]
  obtain ⟨_, _, ⟨⟩, ⟨⟩, listed⟩ := tools _ _ rfl rfl rfl
  obtain ⟨⟨-, alike⟩, -⟩ := List.forall₂_cons.1 listed
  exact ⟨by decide, read, read', messages _ _ rfl rfl rfl,
    ⟨_, _, rfl, rfl, .cons (alike bare bare') .nil⟩⟩

/-- A member of a tool itself is lost: with and without it the request is the same, and so is its
canonical text. -/
theorem ofBody_strictTool :
    (bodyOf plainMessage plainTool).WellFormed ∧ (bodyOf plainMessage strictTool).WellFormed ∧
      ofBody (bodyOf plainMessage plainTool) = .ok toolRequest ∧
      ofBody (bodyOf plainMessage strictTool) = .ok toolRequest ∧
      ¬ ItemsAlike Tool.SpeltAlike (.array [plainTool]) (.array [strictTool]) := by
  refine ⟨by decide, by decide, rfl, rfl, ?_⟩
  rintro ⟨_, _, ⟨⟩, ⟨⟩, alike⟩
  -- One of the tools has the member and the other one has not.
  have lost := (List.forall₂_cons.1 alike).1.others "strict" (by decide)
  cases lost

end Request

end CompletionCache
