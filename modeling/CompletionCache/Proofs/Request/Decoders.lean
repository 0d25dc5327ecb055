import CompletionCache.Proofs.Request.Variants

/-!
# Two decoders of requests

A request is read from a body part by part (`Request.ofBody`) or as a record (`Request.ofJson`). An
object writes a request under the first names of its parts (`WrittenBy`). With messages, and nothing
under the second names, the first decoder reads what an object writes (`ofBody_eq_ok_iff_writtenBy`), and
with a flag that is not null so does the second one (`ofJson_eq_ok_iff_writtenBy`). Where all of this is
so, they agree (`decoders_agree`).
-/

set_option autoImplicit false

namespace CompletionCache

open Json (Mismatch find?)

/-! ## Parameters -/

namespace Json

variable {α : Type}

/-- What is read of a parameter, if there is one. -/
def readPresent (read : Json → Except Mismatch α) : Option Json → Except Mismatch (Option α)
  | none => .ok none
  | some v => some <$> read v

/-- A field that may be null is a parameter. -/
theorem join_field? (layout : Layout) (members : Members) (name : String)
    (read : Json → Except Mismatch α) :
    Option.join <$> Record.field? ⟨layout, members, none⟩ name (readOption read) =
      readPresent read (Request.present? (object members) name) := by
  rw [Record.field?, Request.present?, member?]
  cases find? name members with
  | none => rfl
  | some v =>
    by_cases null : v = .null
    · subst null
      rfl
    · have option : readOption read v = some <$> read v := by
        cases v with
        | null => exact absurd rfl null
        | _ => rfl
      dsimp only
      rw [option, Option.filter_some, if_pos (by simpa using null), readPresent]
      cases read v <;> rfl

/-- A whole number of 32 bits is read from its own document alone. -/
theorem readUInt32_eq_ok_iff {v : Json} {n : UInt32} : readUInt32 v = .ok n ↔ v = ofNat n.toNat := by
  constructor
  · intro ok
    obtain ⟨k, read, ok⟩ := bind_eq_ok.1 ok
    cases ok
    obtain ⟨document, below⟩ := readBelow_eq_ok_iff.1 read
    rwa [UInt32.toNat_ofNat_of_lt' below]
  · rintro rfl
    refine bind_eq_ok.2 ⟨n.toNat, readBelow_eq_ok_iff.2 ⟨rfl, n.toNat_lt⟩, ?_⟩
    exact congrArg Except.ok UInt32.ofNat_toNat

/-- A field that may be null is read as a parameter. -/
theorem readPresent_of_field? {layout : Layout} {members : Members} {name : String}
    {read : Json → Except Mismatch α} {value : Option (Option α)}
    (ok : Record.field? ⟨layout, members, none⟩ name (readOption read) = .ok value) :
    readPresent read (Request.present? (object members) name) = .ok value.join := by
  rw [← join_field? layout, ok]
  rfl

/-- A parameter is read as a field that may be null. -/
theorem field?_of_readPresent {members : Members} {name : String} {read : Json → Except Mismatch α}
    {value : Option α} (layout : Layout)
    (ok : readPresent read (Request.present? (object members) name) = .ok value) :
    ∃ found, Record.field? ⟨layout, members, none⟩ name (readOption read) = .ok found ∧
      found.join = value :=
  map_eq_ok.1 ((join_field? layout members name read).trans ok)

/-- A field that is not null is a parameter. -/
theorem field?_eq_readPresent {layout : Layout} {members : Members} {name : String}
    (read : Json → Except Mismatch α) (notNull : find? name members ≠ some .null) :
    Record.field? ⟨layout, members, none⟩ name read =
      readPresent read (Request.present? (object members) name) := by
  rw [Record.field?, Request.present?, member?]
  cases found : find? name members with
  | none => rfl
  | some v =>
    have present : v ≠ null := fun null => notNull (null ▸ found)
    dsimp only
    rw [Option.filter_some, if_pos (by simpa using present), readPresent]

/-- A document that is present in a body is kept as it is. -/
theorem readPresent_readAny {body : Json} (wellFormed : body.WellFormed) (name : String) :
    readPresent readAny (Request.present? body name) = .ok (Request.present? body name) := by
  cases present : Request.present? body name with
  | none => rfl
  | some v =>
    have normal := (Request.present_of_present? wellFormed present).wellFormed.normal
    rw [readPresent, readAny, normal]
    rfl

end Json

namespace Request

/-! ## What both want -/

/-- An object writes a request, under the first names of its parts. -/
structure WrittenBy (body : Json) (request : Request) : Prop where
  model : body.member? "model" = some (.string request.model)
  messages : ∃ v, body.member? "messages" = some v ∧
    Json.readList Message.ofJson v = .ok request.messages
  temperature : Json.readPresent Json.readBinary64 (present? body "temperature") =
    .ok request.temperature
  maxTokens : Json.readPresent Json.readUInt32 (present? body "max_tokens") = .ok request.maxTokens
  topP : Json.readPresent Json.readBinary64 (present? body "top_p") = .ok request.topP
  tools : Json.readPresent (Json.readList Tool.ofJson) (present? body "tools") = .ok request.tools
  responseFormat : present? body "response_format" = request.responseFormat
  stream : ∃ flag, Json.readPresent Json.readBool (present? body "stream") = .ok flag ∧
    flag.getD false = request.stream

section Body

variable {body : Json}

theorem bodyModel_eq_some_iff {model : String} :
    (body.member? "model").bind Json.string? = some model ↔
      body.member? "model" = some (.string model) := by
  cases body.member? "model" with
  | none => simp
  | some v => cases v <;> simp [Json.string?]

theorem bodyMessages_eq_ok_iff (given : (body.member? "messages").isSome = true)
    {messages : List Message} :
    bodyMessages body = .ok messages ↔
      ∃ v, body.member? "messages" = some v ∧ Json.readList Message.ofJson v = .ok messages := by
  obtain ⟨v, found⟩ := Option.isSome_iff_exists.1 given
  rw [bodyMessages, found]
  simp [Json.mapError_eq_ok]

theorem bodyNumber_eq_ok_iff {name : String} {number : Option Binary64} :
    bodyNumber body name = .ok number ↔
      Json.readPresent Json.readBinary64 (present? body name) = .ok number := by
  rw [bodyNumber]
  cases present? body name with
  | none => simp [Json.readPresent]
  | some v => cases v <;> simp [Json.readPresent, Json.binary64?, Json.readBinary64]

theorem bodyTokenLimit_eq_ok_iff (free : present? body "max_completion_tokens" = none)
    {limit : Option UInt32} :
    bodyTokenLimit body = .ok limit ↔
      Json.readPresent Json.readUInt32 (present? body "max_tokens") = .ok limit := by
  rw [bodyTokenLimit, free]
  cases present? body "max_tokens" with
  | none => simp [Json.readPresent]
  | some v =>
    simp only [Json.readPresent, Json.map_eq_ok, tokenLimit_eq_ok_iff_ofNat,
      Json.readUInt32_eq_ok_iff]

theorem bodyTools_eq_ok_iff (free : present? body "functions" = none)
    {tools : Option (List Tool)} :
    bodyTools body = .ok tools ↔
      Json.readPresent (Json.readList Tool.ofJson) (present? body "tools") = .ok tools := by
  rw [bodyTools, free]
  cases present? body "tools" with
  | none => simp [Json.readPresent]
  | some v => exact Json.mapError_eq_ok

theorem bodyStream_eq_ok_iff {stream : Bool} :
    bodyStream body = .ok stream ↔ ∃ flag,
      Json.readPresent Json.readBool (present? body "stream") = .ok flag ∧
        flag.getD false = stream := by
  rw [bodyStream]
  cases present? body "stream" with
  | none => simp [Json.readPresent]
  | some v => cases v <;> simp [Json.readPresent, Json.readBool]

/-- With messages, and nothing under the second names, a body is read as what it writes. -/
theorem ofBody_eq_ok_iff_writtenBy {request : Request}
    (given : (body.member? "messages").isSome = true)
    (limit : present? body "max_completion_tokens" = none)
    (functions : present? body "functions" = none) :
    ofBody body = .ok request ↔ WrittenBy body request := by
  rw [ofBody_eq_ok_iff]
  constructor
  · rintro ⟨model, messages, maxTokens, tools, temperature, topP, stream, format⟩
    exact {
      model := bodyModel_eq_some_iff.1 model
      messages := (bodyMessages_eq_ok_iff given).1 messages
      temperature := bodyNumber_eq_ok_iff.1 temperature
      maxTokens := (bodyTokenLimit_eq_ok_iff limit).1 maxTokens
      topP := bodyNumber_eq_ok_iff.1 topP
      tools := (bodyTools_eq_ok_iff functions).1 tools
      responseFormat := format
      stream := bodyStream_eq_ok_iff.1 stream }
  · intro written
    exact ⟨bodyModel_eq_some_iff.2 written.model, (bodyMessages_eq_ok_iff given).2 written.messages,
      (bodyTokenLimit_eq_ok_iff limit).2 written.maxTokens,
      (bodyTools_eq_ok_iff functions).2 written.tools,
      bodyNumber_eq_ok_iff.2 written.temperature, bodyNumber_eq_ok_iff.2 written.topP,
      bodyStream_eq_ok_iff.2 written.stream, written.responseFormat⟩

end Body

/-! ## Records -/

section Record

variable {members : Members} {request : Request}

theorem ofJson_of_writtenBy (wellFormed : (Json.object members).WellFormed)
    (flag : find? "stream" members ≠ some .null) (written : WrittenBy (.object members) request) :
    ofJson (.object members) = .ok request := by
  have readAny := Json.readPresent_readAny wellFormed "response_format"
  obtain ⟨v, messages, readMessages⟩ := written.messages
  obtain ⟨stream, readStream, flagged⟩ := written.stream
  obtain ⟨temperature, temperatureRead, temperatureSame⟩ :=
    Json.field?_of_readPresent layout written.temperature
  obtain ⟨maxTokens, maxTokensRead, maxTokensSame⟩ :=
    Json.field?_of_readPresent layout written.maxTokens
  obtain ⟨topP, topPRead, topPSame⟩ := Json.field?_of_readPresent layout written.topP
  obtain ⟨tools, toolsRead, toolsSame⟩ := Json.field?_of_readPresent layout written.tools
  obtain ⟨format, formatRead, formatSame⟩ := Json.field?_of_readPresent layout readAny
  have modelField : Json.Record.field ⟨layout, members, none⟩ "model" Json.readText =
      .ok request.model := Json.field_of_find? written.model rfl
  have messagesField : Json.Record.field ⟨layout, members, none⟩ "messages"
      (Json.readList Message.ofJson) = .ok request.messages := Json.field_of_find? messages readMessages
  have streamField : Json.Record.field? ⟨layout, members, none⟩ "stream" Json.readBool = .ok stream :=
    (Json.field?_eq_readPresent _ flag).trans readStream
  have record : layout.record (.object members) = .ok ⟨layout, members, none⟩ := by
    apply Json.record_of_passes (by decide)
      (Json.nodup_names (Json.wellFormed_object_iff.1 wellFormed).1)
    intro field mem
    simp only [layout, List.mem_cons, List.not_mem_nil, or_false] at mem
    rcases mem with rfl | rfl | rfl | rfl | rfl | rfl | rfl | rfl
    · exact Json.passes_of_field modelField
    · exact Json.passes_of_field messagesField
    · exact Json.passes_of_field? temperatureRead
    · exact Json.passes_of_field? maxTokensRead
    · exact Json.passes_of_field? topPRead
    · exact Json.passes_of_field? toolsRead
    · exact Json.passes_of_field? formatRead
    · exact Json.passes_of_field? streamField
  rw [ofJson, Json.bind_of_ok record, Json.bind_of_ok modelField, Json.bind_of_ok messagesField,
    Json.bind_of_ok temperatureRead, Json.bind_of_ok maxTokensRead, Json.bind_of_ok topPRead,
    Json.bind_of_ok toolsRead, Json.bind_of_ok formatRead, Json.bind_of_ok streamField]
  rw [temperatureSame, maxTokensSame, topPSame, toolsSame, formatSame, written.responseFormat, flagged]
  rfl

theorem writtenBy_of_ofJson (wellFormed : (Json.object members).WellFormed)
    (flag : find? "stream" members ≠ some .null) (ok : ofJson (.object members) = .ok request) :
    WrittenBy (.object members) request := by
  obtain ⟨record, recordRead, ok⟩ := Json.bind_eq_ok.1 ok
  obtain rfl := Json.record_object_eq_ok recordRead
  obtain ⟨model, modelRead, ok⟩ := Json.bind_eq_ok.1 ok
  obtain ⟨messages, messagesRead, ok⟩ := Json.bind_eq_ok.1 ok
  obtain ⟨temperature, temperatureRead, ok⟩ := Json.bind_eq_ok.1 ok
  obtain ⟨maxTokens, maxTokensRead, ok⟩ := Json.bind_eq_ok.1 ok
  obtain ⟨topP, topPRead, ok⟩ := Json.bind_eq_ok.1 ok
  obtain ⟨tools, toolsRead, ok⟩ := Json.bind_eq_ok.1 ok
  obtain ⟨format, formatRead, ok⟩ := Json.bind_eq_ok.1 ok
  obtain ⟨stream, streamRead, ok⟩ := Json.bind_eq_ok.1 ok
  cases ok
  obtain ⟨w, named, text⟩ := Json.field_eq_ok modelRead
  obtain ⟨v, listed, list⟩ := Json.field_eq_ok messagesRead
  have format := (Json.readPresent_readAny wellFormed "response_format").symm.trans
    (Json.readPresent_of_field? formatRead)
  exact {
    model := named.trans (congrArg some (Json.string_of_readText text).symm)
    messages := ⟨v, listed, list⟩
    temperature := Json.readPresent_of_field? temperatureRead
    maxTokens := Json.readPresent_of_field? maxTokensRead
    topP := Json.readPresent_of_field? topPRead
    tools := Json.readPresent_of_field? toolsRead
    responseFormat := Except.ok.inj format
    stream := ⟨stream, (Json.field?_eq_readPresent _ flag).symm.trans streamRead, rfl⟩ }

/-- With a flag that is not null, an object is read as what it writes. -/
theorem ofJson_eq_ok_iff_writtenBy (wellFormed : (Json.object members).WellFormed)
    (flag : find? "stream" members ≠ some .null) :
    ofJson (.object members) = .ok request ↔ WrittenBy (.object members) request :=
  ⟨writtenBy_of_ofJson wellFormed flag, ofJson_of_writtenBy wellFormed flag⟩

end Record

/-- On a well-formed object with messages, a flag that is not null and nothing but null under the second
names, the two decoders agree: they read the same request, or neither reads any. -/
theorem decoders_agree {members : Members} (wellFormed : (Json.object members).WellFormed)
    (given : (find? "messages" members).isSome = true) (flag : find? "stream" members ≠ some .null)
    (limit : present? (.object members) "max_completion_tokens" = none)
    (functions : present? (.object members) "functions" = none) (request : Request) :
    ofBody (.object members) = .ok request ↔ ofJson (.object members) = .ok request := by
  have messages : ((Json.object members).member? "messages").isSome = true := given
  rw [ofBody_eq_ok_iff_writtenBy messages limit functions,
    ofJson_eq_ok_iff_writtenBy wellFormed flag]

/-- A body with a whole temperature, nulls, and a member that is not read. -/
def plainMembers : Members :=
  [("functions", .null), ("max_tokens", .number (.integer 64)),
    ("messages", .array [.object [("content", .null), ("name", .string "Ada"),
      ("role", .string "user")]]),
    ("model", .string "m"), ("response_format", .object [("type", .string "text")]),
    ("temperature", .number (.integer 1)), ("tools", .null), ("user", .string "Ada")]

/-- The request of that body. -/
def plainRequest : Request where
  model := "m"
  messages := [⟨.user, none, [("name", .string "Ada")]⟩]
  temperature := some (.ofInt 1)
  maxTokens := some 64
  topP := none
  tools := none
  responseFormat := some (.object [("type", .string "text")])
  stream := false

/-- Both decoders read the request of the body. -/
theorem decoders_agree_plainMembers :
    (Json.object plainMembers).WellFormed ∧ (find? "messages" plainMembers).isSome = true ∧
    find? "stream" plainMembers ≠ some .null ∧
    present? (.object plainMembers) "max_completion_tokens" = none ∧
    present? (.object plainMembers) "functions" = none ∧
    ofBody (.object plainMembers) = .ok plainRequest ∧
    ofJson (.object plainMembers) = .ok plainRequest := by
  have wellFormed : (Json.object plainMembers).WellFormed := by decide
  have flag : find? "stream" plainMembers ≠ some .null := by decide
  have limit : present? (.object plainMembers) "max_completion_tokens" = none := by decide
  have functions : present? (.object plainMembers) "functions" = none := by decide
  have read : ofBody (.object plainMembers) = .ok plainRequest := rfl
  exact ⟨wellFormed, rfl, flag, limit, functions, read,
    (decoders_agree wellFormed rfl flag limit functions plainRequest).1 read⟩

end Request

end CompletionCache
