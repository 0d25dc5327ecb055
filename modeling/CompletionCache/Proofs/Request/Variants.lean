import CompletionCache.Proofs.Request.Spelling

/-!
# Bodies that write one request

A body is read through what it gives for the names in `bodyNames`, and a parameter through what it
gives other than null. A request is read exactly when each of its parts is (`ofBody_eq_ok_iff`), and
bodies with the same parts are read alike, faults included (`SameParts.ofBody_eq`). So a null parameter
is an absent one, the second names of the token limit and of the tools are as good as the first ones,
and no other member matters (`variants_write_one_request`).
-/

set_option autoImplicit false

namespace CompletionCache

open Json (find? insertMember find?_insertMember)

/-! ## Members -/

namespace Json

/-- The members without those of a name. -/
def eraseMember (name : String) (members : Members) : Members :=
  members.filter fun member => member.1 != name

theorem find?_eraseMember (name other : String) (members : Members) :
    find? other (eraseMember name members) =
      if name = other then none else find? other members := by
  split_ifs with same
  · rw [find?_eq_none_iff]
    intro member mem
    exact same ▸ bne_iff_ne.1 (List.mem_filter.1 mem).2
  · exact find?_filter (· != name) (bne_iff_ne.2 (Ne.symm same)) members

end Json

open Json (eraseMember find?_eraseMember)

/-! ## Tools that are functions -/

/-- The document of a tool that is the function of a document. -/
def Tool.documentOf (function : Json) : Json :=
  .object [("function", function), ("type", .string functionType)]

/-- The record of such a tool. -/
def Tool.recordOf (function : Json) : Json.Record :=
  ⟨layout, [("function", function), ("type", .string functionType)], none⟩

/-- The type of such a tool is in order, so its function alone decides. -/
theorem Tool.record_documentOf (function : Json) :
    layout.record (documentOf function) =
      (fun _ => recordOf function) <$> Function.ofJson function := by
  have check : layout.check? "function" = some fun v => discard (Function.ofJson v) := rfl
  rw [documentOf, Json.Layout.record, Json.Layout.checkMembers, check]
  dsimp only
  cases Function.ofJson function with
  | error mismatch => rfl
  | ok value => rfl

theorem Tool.ofJson_documentOf (function : Json) :
    Tool.ofJson (documentOf function) = ofFunction <$> Function.ofJson function := by
  rw [ofJson, record_documentOf]
  cases read : Function.ofJson function with
  | error mismatch => rfl
  | ok value =>
    have type : (recordOf function).field "type" Json.readText = .ok functionType := rfl
    have found : (recordOf function).field "function" Function.ofJson = .ok value :=
      Json.field_of_find? rfl read
    have closed : (recordOf function).close = .ok () := rfl
    refine Json.bind_eq_ok.2 ⟨_, rfl, Json.bind_eq_ok.2 ⟨_, type, ?_⟩⟩
    exact Json.bind_eq_ok.2 ⟨_, found, Json.bind_eq_ok.2 ⟨_, closed, rfl⟩⟩

theorem Tool.readList_documentOf (functions : List Json) :
    Json.readList Tool.ofJson (.array (functions.map documentOf)) =
      List.map ofFunction <$> Json.readList Function.ofJson (.array functions) := by
  rw [Json.readList, Json.readList]
  induction functions with
  | nil => rfl
  | cons function functions ih =>
    rw [List.map_cons, List.mapM_cons, List.mapM_cons, ih, ofJson_documentOf]
    cases Function.ofJson function with
    | error mismatch => rfl
    | ok value =>
      cases functions.mapM Function.ofJson with
      | error mismatch => rfl
      | ok values => rfl

namespace Request

/-! ## Parts of a body -/

/-- The parameters: members that may be left out. -/
def parameterNames : List String :=
  ["temperature", "top_p", "max_tokens", "max_completion_tokens", "tools", "functions",
    "response_format", "stream"]

/-- The members of a body that are read. -/
def bodyNames : List String := "model" :: "messages" :: parameterNames

/-- A request is read from a body exactly when each of its parts is. -/
theorem ofBody_eq_ok_iff {body : Json} {request : Request} :
    ofBody body = .ok request ↔
      (body.member? "model").bind Json.string? = some request.model ∧
      bodyMessages body = .ok request.messages ∧ bodyTokenLimit body = .ok request.maxTokens ∧
      bodyTools body = .ok request.tools ∧
      bodyNumber body "temperature" = .ok request.temperature ∧
      bodyNumber body "top_p" = .ok request.topP ∧ bodyStream body = .ok request.stream ∧
      present? body "response_format" = request.responseFormat := by
  unfold ofBody
  constructor
  · intro ok
    cases model : (body.member? "model").bind Json.string? with
    | none =>
      rw [model] at ok
      cases ok
    | some name =>
      rw [model] at ok
      obtain ⟨messages, messagesRead, ok⟩ := Json.bind_eq_ok.1 ok
      obtain ⟨maxTokens, maxTokensRead, ok⟩ := Json.bind_eq_ok.1 ok
      obtain ⟨tools, toolsRead, ok⟩ := Json.bind_eq_ok.1 ok
      obtain ⟨temperature, temperatureRead, ok⟩ := Json.bind_eq_ok.1 ok
      obtain ⟨topP, topPRead, ok⟩ := Json.bind_eq_ok.1 ok
      obtain ⟨stream, streamRead, ok⟩ := Json.bind_eq_ok.1 ok
      cases ok
      exact ⟨rfl, messagesRead, maxTokensRead, toolsRead, temperatureRead, topPRead, streamRead, rfl⟩
  · rintro ⟨model, messages, maxTokens, tools, temperature, topP, stream, format⟩
    rw [model, messages, maxTokens, tools, temperature, topP, stream, format]
    rfl

/-- Two bodies that agree on everything that is written under one name only; null parameters count as
absent. -/
structure SameParts (body body' : Json) : Prop where
  model : body.member? "model" = body'.member? "model"
  messages : body.member? "messages" = body'.member? "messages"
  temperature : present? body "temperature" = present? body' "temperature"
  topP : present? body "top_p" = present? body' "top_p"
  format : present? body "response_format" = present? body' "response_format"
  stream : present? body "stream" = present? body' "stream"

namespace SameParts

variable {body body' : Json} (same : SameParts body body')

include same

/-- If the token limit and the tools are read alike as well, the bodies are, faults included. -/
theorem ofBody_eq (limit : bodyTokenLimit body = bodyTokenLimit body')
    (tools : bodyTools body = bodyTools body') : ofBody body = ofBody body' := by
  unfold ofBody bodyMessages bodyNumber bodyStream
  rw [same.model, same.messages, limit, tools, same.temperature, same.topP, same.format,
    same.stream]

/-- If the token limit is read alike up to its faults, so are the bodies. -/
theorem ofBody_iff (limit : ∀ n, bodyTokenLimit body = .ok n ↔ bodyTokenLimit body' = .ok n)
    (tools : bodyTools body = bodyTools body') (request : Request) :
    ofBody body = .ok request ↔ ofBody body' = .ok request := by
  rw [ofBody_eq_ok_iff, ofBody_eq_ok_iff, limit, tools, same.model, same.format]
  unfold bodyMessages bodyNumber bodyStream
  rw [same.messages, same.temperature, same.topP, same.stream]

end SameParts

/-- Bodies that give the same for every name are read alike; null parameters count as absent. -/
theorem ofBody_eq_of_present? {body body' : Json}
    (model : body.member? "model" = body'.member? "model")
    (messages : body.member? "messages" = body'.member? "messages")
    (parameters : ∀ name ∈ parameterNames, present? body name = present? body' name) :
    ofBody body = ofBody body' := by
  have same : SameParts body body' := ⟨model, messages, parameters _ (by decide),
    parameters _ (by decide), parameters _ (by decide), parameters _ (by decide)⟩
  apply same.ofBody_eq
  · rw [bodyTokenLimit, bodyTokenLimit, parameters "max_tokens" (by decide),
      parameters "max_completion_tokens" (by decide)]
  · rw [bodyTools, bodyTools, parameters "tools" (by decide), parameters "functions" (by decide)]

/-! ## Members that are null or not read -/

section Variants

variable {members : Members}

theorem present?_insertMember (name other : String) (value : Json) :
    present? (.object (insertMember name value members)) other =
      if name = other then (some value).filter (· ≠ .null)
      else present? (.object members) other := by
  rw [present?, Json.member?, find?_insertMember]
  split_ifs <;> rfl

theorem present?_eraseMember (name other : String) :
    present? (.object (eraseMember name members)) other =
      if name = other then none else present? (.object members) other := by
  rw [present?, Json.member?, find?_eraseMember]
  split_ifs <;> rfl

/-- A null parameter is read as an absent one. -/
theorem ofBody_insertMember_null {name : String} (parameter : name ∈ parameterNames) :
    ofBody (.object (insertMember name .null members)) =
      ofBody (.object (eraseMember name members)) := by
  have required : ∀ other, other ∉ parameterNames →
      find? other (insertMember name .null members) = find? other (eraseMember name members) := by
    intro other notParameter
    rw [find?_insertMember, find?_eraseMember, if_neg, if_neg]
    all_goals
      rintro rfl
      exact notParameter parameter
  refine ofBody_eq_of_present? (required _ (by decide)) (required _ (by decide)) ?_
  intro other _
  rw [present?_insertMember, present?_eraseMember]
  rfl

/-- Bodies that give the same for every name that is read are read alike. -/
theorem ofBody_eq_of_find? {members' : Members}
    (same : ∀ name ∈ bodyNames, find? name members' = find? name members) :
    ofBody (.object members') = ofBody (.object members) := by
  refine ofBody_eq_of_present? (same _ (by decide)) (same _ (by decide)) ?_
  intro name parameter
  rw [present?, present?, Json.member?, Json.member?,
    same name (List.mem_cons_of_mem _ (List.mem_cons_of_mem _ parameter))]

/-- A member that is not read can be added or changed. -/
theorem ofBody_insertMember_of_unread {name : String} (unread : name ∉ bodyNames) (value : Json) :
    ofBody (.object (insertMember name value members)) = ofBody (.object members) := by
  refine ofBody_eq_of_find? fun other read => ?_
  rw [find?_insertMember, if_neg]
  rintro rfl
  exact unread read

/-- A member that is not read can be taken away. -/
theorem ofBody_eraseMember_of_unread {name : String} (unread : name ∉ bodyNames) :
    ofBody (.object (eraseMember name members)) = ofBody (.object members) := by
  refine ofBody_eq_of_find? fun other read => ?_
  rw [find?_eraseMember, if_neg]
  rintro rfl
  exact unread read

/-! ## Second names -/

/-- The members when a value stands under its first name and nothing under its second one. -/
def underFirst (first second : String) (value : Json) (members : Members) : Members :=
  insertMember first value (eraseMember second members)

section UnderFirst

variable {first second : String} {value : Json}

theorem find?_underFirst {other : String} (notFirst : first ≠ other) (notSecond : second ≠ other) :
    find? other (underFirst first second value members) = find? other members := by
  rw [underFirst, find?_insertMember, if_neg notFirst, find?_eraseMember, if_neg notSecond]

theorem present?_underFirst {other : String} (notFirst : first ≠ other)
    (notSecond : second ≠ other) :
    present? (.object (underFirst first second value members)) other =
      present? (.object members) other := by
  rw [present?, Json.member?, find?_underFirst notFirst notSecond]
  rfl

theorem present?_underFirst_first :
    present? (.object (underFirst first second value members)) first =
      (some value).filter (· ≠ .null) := by
  rw [underFirst, present?_insertMember, if_pos rfl]

theorem present?_underFirst_second (differ : first ≠ second) :
    present? (.object (underFirst first second value members)) second = none := by
  rw [underFirst, present?_insertMember, if_neg differ, present?_eraseMember, if_pos rfl]

end UnderFirst

/-- A token limit is read from its own document alone. -/
theorem tokenLimit_eq_ok_iff_ofNat {name : String} {v : Json} {n : UInt32} :
    tokenLimit name v = .ok n ↔ v = .ofNat n.toNat := by
  constructor
  · intro ok
    cases v with
    | number value =>
      cases value with
      | integer value =>
        rw [tokenLimit, Json.integer?] at ok
        dsimp only at ok
        split_ifs at ok with negative large
        cases ok
        have small : value.toNat < UInt32.size := by omega
        rw [UInt32.toNat_ofNat_of_lt' small, Json.ofNat, Int.toNat_of_nonneg (Int.not_lt.1 negative)]
      | real value => cases ok
    | _ => cases ok
  · rintro rfl
    have nonneg : ¬(n.toNat : Int) < 0 := Int.not_lt.2 (Int.natCast_nonneg _)
    have small : ¬(UInt32.size : Int) ≤ n.toNat := Int.not_le.2 (Int.ofNat_lt.2 n.toNat_lt)
    rw [tokenLimit, Json.ofNat, Json.integer?]
    dsimp only
    rw [if_neg nonneg, if_neg small, Int.toNat_natCast, UInt32.ofNat_toNat]

/-- The name of a token limit shows in its faults alone. -/
theorem tokenLimit_eq_ok_iff (name name' : String) (value : Json) (limit : UInt32) :
    tokenLimit name value = .ok limit ↔ tokenLimit name' value = .ok limit := by
  rw [tokenLimit_eq_ok_iff_ofNat, tokenLimit_eq_ok_iff_ofNat]

/-- A token limit can be written under either name. -/
theorem ofBody_limit_underFirst {value : Json}
    (free : present? (.object members) "max_tokens" = none)
    (given : find? "max_completion_tokens" members = some value) (request : Request) :
    ofBody (.object (underFirst "max_tokens" "max_completion_tokens" value members)) =
        .ok request ↔
      ofBody (.object members) = .ok request := by
  have same : SameParts (.object (underFirst "max_tokens" "max_completion_tokens" value members))
      (.object members) :=
    ⟨find?_underFirst (by decide) (by decide), find?_underFirst (by decide) (by decide),
      present?_underFirst (by decide) (by decide), present?_underFirst (by decide) (by decide),
      present?_underFirst (by decide) (by decide), present?_underFirst (by decide) (by decide)⟩
  apply same.ofBody_iff
  · intro limit
    have second : present? (.object members) "max_completion_tokens" =
        (some value).filter (· ≠ .null) := by
      rw [present?, Json.member?, given]
    rw [bodyTokenLimit, bodyTokenLimit, free, second, present?_underFirst_first,
      present?_underFirst_second (by decide)]
    cases (some value).filter (· ≠ .null) with
    | none => rfl
    | some value =>
      dsimp only
      simp only [Json.map_eq_ok, tokenLimit_eq_ok_iff "max_tokens" "max_completion_tokens"]
  · rw [bodyTools, bodyTools, present?_underFirst (by decide) (by decide),
      present?_underFirst (by decide) (by decide)]

/-- Functions can be written as tools. -/
theorem ofBody_functions_underFirst {functions : List Json}
    (free : present? (.object members) "tools" = none)
    (given : find? "functions" members = some (.array functions)) :
    ofBody (.object (underFirst "tools" "functions" (.array (functions.map Tool.documentOf))
        members)) =
      ofBody (.object members) := by
  have same : SameParts (.object (underFirst "tools" "functions"
      (.array (functions.map Tool.documentOf)) members)) (.object members) :=
    ⟨find?_underFirst (by decide) (by decide), find?_underFirst (by decide) (by decide),
      present?_underFirst (by decide) (by decide), present?_underFirst (by decide) (by decide),
      present?_underFirst (by decide) (by decide), present?_underFirst (by decide) (by decide)⟩
  apply same.ofBody_eq
  · rw [bodyTokenLimit, bodyTokenLimit, present?_underFirst (by decide) (by decide),
      present?_underFirst (by decide) (by decide)]
  · have second : present? (.object members) "functions" = some (.array functions) := by
      rw [present?, Json.member?, given]
      rfl
    have first : present? (.object (underFirst "tools" "functions"
        (.array (functions.map Tool.documentOf)) members)) "tools" =
        some (.array (functions.map Tool.documentOf)) := present?_underFirst_first
    rw [bodyTools, bodyTools, free, second, first]
    dsimp only
    rw [Tool.readList_documentOf]
    cases Json.readList Function.ofJson (.array functions) with
    | error mismatch => rfl
    | ok values => rfl

/-! ## The flag -/

/-- With another flag in the place of the flag, the same request is read with that flag. -/
theorem ofBody_restreamed {stream : Bool} (given : find? "stream" members = some (.bool stream))
    (other : Bool) :
    ofBody (.object (insertMember "stream" (.bool other) members)) =
      (fun request => { request with stream := other }) <$> ofBody (.object members) := by
  have required : ∀ name, "stream" ≠ name →
      (Json.object (insertMember "stream" (.bool other) members)).member? name =
        (Json.object members).member? name := by
    intro name notStream
    rw [Json.member?, find?_insertMember, if_neg notStream, Json.member?]
  have parameters : ∀ name, "stream" ≠ name →
      present? (.object (insertMember "stream" (.bool other) members)) name =
        present? (.object members) name := by
    intro name notStream
    rw [present?, required name notStream, present?]
  have before : bodyStream (.object members) = .ok stream := by
    rw [bodyStream, present?, Json.member?, given]
    rfl
  have behind : bodyStream (.object (insertMember "stream" (.bool other) members)) = .ok other := by
    rw [bodyStream, present?_insertMember, if_pos rfl]
    rfl
  unfold ofBody
  rw [before, behind]
  unfold bodyMessages bodyTokenLimit bodyTools bodyNumber
  rw [required "model" (by decide), required "messages" (by decide)]
  simp (disch := decide) only [parameters]
  cases ((Json.object members).member? "model").bind Json.string? with
  | none => rfl
  | some model =>
    -- The flag is the last part that is read, and no other part looks at it.
    simp only [map_bind]
    rfl

/-! ## One request -/

/-- Two bodies write one request: the same one is read from both, or none from either, and it has one
fingerprint. -/
structure WriteOne (body body' : Json) : Prop where
  request : ∀ request, ofBody body = .ok request ↔ ofBody body' = .ok request
  fingerprint : ∀ {request request' : Request}, ofBody body = .ok request →
    ofBody body' = .ok request' → request.fingerprint = request'.fingerprint

theorem writeOne_of_iff {body body' : Json}
    (same : ∀ request, ofBody body = .ok request ↔ ofBody body' = .ok request) :
    WriteOne body body' where
  request := same
  fingerprint read read' := by
    rw [(same _).1 read] at read'
    rw [Except.ok.inj read']

theorem writeOne_of_eq {body body' : Json} (same : ofBody body = ofBody body') :
    WriteOne body body' :=
  writeOne_of_iff fun _ => same ▸ Iff.rfl

end Variants

/-- A body writes the same request, or has the same fault, whether a parameter is null or absent and
whatever members it has that are not read. It writes the same request with its token limit, or with its
functions as tools, under their first name, when nothing is there. Its fingerprint is the same with
either flag. -/
theorem variants_write_one_request (members : Members) :
    (∀ name ∈ parameterNames,
      ofBody (.object (insertMember name .null members)) =
          ofBody (.object (eraseMember name members)) ∧
        WriteOne (.object (insertMember name .null members))
          (.object (eraseMember name members))) ∧
    (∀ value, present? (.object members) "max_tokens" = none →
      find? "max_completion_tokens" members = some value →
      WriteOne (.object (underFirst "max_tokens" "max_completion_tokens" value members))
        (.object members)) ∧
    (∀ functions, present? (.object members) "tools" = none →
      find? "functions" members = some (.array functions) →
      WriteOne (.object (underFirst "tools" "functions" (.array (functions.map Tool.documentOf))
        members)) (.object members)) ∧
    (∀ name ∉ bodyNames,
      (∀ value, ofBody (.object (insertMember name value members)) = ofBody (.object members) ∧
        WriteOne (.object (insertMember name value members)) (.object members)) ∧
      ofBody (.object (eraseMember name members)) = ofBody (.object members) ∧
        WriteOne (.object (eraseMember name members)) (.object members)) ∧
    ∀ stream other, find? "stream" members = some (.bool stream) →
      Request.fingerprint <$> ofBody (.object (insertMember "stream" (.bool other) members)) =
        Request.fingerprint <$> ofBody (.object members) := by
  refine ⟨?_, ?_, ?_, ?_, ?_⟩
  · intro name parameter
    have same : ofBody (.object (insertMember name .null members)) =
        ofBody (.object (eraseMember name members)) := ofBody_insertMember_null parameter
    exact ⟨same, writeOne_of_eq same⟩
  · intro value free given
    exact writeOne_of_iff (ofBody_limit_underFirst free given)
  · intro functions free given
    exact writeOne_of_eq (ofBody_functions_underFirst free given)
  · intro name unread
    have removed : ofBody (.object (eraseMember name members)) = ofBody (.object members) :=
      ofBody_eraseMember_of_unread unread
    refine ⟨?_, removed, writeOne_of_eq removed⟩
    intro value
    have added : ofBody (.object (insertMember name value members)) = ofBody (.object members) :=
      ofBody_insertMember_of_unread unread value
    exact ⟨added, writeOne_of_eq added⟩
  · intro stream other given
    -- The fingerprint leaves the flag out.
    rw [ofBody_restreamed given, ← comp_map]
    rfl

/-- A body of an old client: its functions and its token limit stand under their second names. -/
def legacyMembers : Members :=
  [("functions", .array [.object [("name", .string "f")]]),
    ("max_completion_tokens", .number (.integer 64)), ("messages", .array []),
    ("model", .string "m"), ("stream", .bool true), ("tools", .null), ("user", .string "Ada")]

/-- The body as a new client writes it. -/
def currentMembers : Members :=
  [("max_tokens", .number (.integer 64)), ("messages", .array []), ("model", .string "m"),
    ("stream", .bool false), ("tools", .array [.object [("function", .object [("name", .string "f")]),
      ("type", .string "function")]])]

/-- The request that both clients write. -/
def functionRequest : Request where
  model := "m"
  messages := []
  temperature := none
  maxTokens := some 64
  topP := none
  tools := some [⟨"function", ⟨"f", none, none, []⟩⟩]
  responseFormat := none
  stream := true

/-- The second names are moved to the first ones, the member that is not read is taken away, a parameter
is nulled, and the flag is changed: the request stays up to its flag, and so does its fingerprint. -/
theorem fingerprint_currentMembers :
    "top_p" ∈ parameterNames ∧ "user" ∉ bodyNames ∧
      present? (.object legacyMembers) "max_tokens" = none ∧
      find? "max_completion_tokens" legacyMembers = some (.number (.integer 64)) ∧
      present? (.object legacyMembers) "tools" = none ∧
      find? "functions" legacyMembers = some (.array [.object [("name", .string "f")]]) ∧
      find? "stream" legacyMembers = some (.bool true) ∧
      ofBody (.object legacyMembers) = .ok functionRequest ∧
      currentMembers = insertMember "stream" (.bool false) (eraseMember "user" (underFirst "tools"
        "functions" (.array [Tool.documentOf (.object [("name", .string "f")])]) (underFirst
          "max_tokens" "max_completion_tokens" (.number (.integer 64)) legacyMembers))) ∧
      Request.fingerprint <$> ofBody (.object currentMembers) = .ok functionRequest.fingerprint ∧
      ofBody (.object (insertMember "top_p" .null legacyMembers)) =
        ofBody (.object (eraseMember "top_p" legacyMembers)) := by
  have read : ofBody (.object legacyMembers) = .ok functionRequest := rfl
  obtain ⟨nulled, limit, -, -, -⟩ := variants_write_one_request legacyMembers
  have limitMoved := ((limit _ (by decide) rfl).request _).2 read
  obtain ⟨-, -, tools, -, -⟩ := variants_write_one_request
    (underFirst "max_tokens" "max_completion_tokens" (.number (.integer 64)) legacyMembers)
  have toolsMoved := ((tools [.object [("name", .string "f")]] (by decide) (by decide)).request _).2
    limitMoved
  obtain ⟨-, -, -, unread, -⟩ := variants_write_one_request (underFirst "tools" "functions"
    (.array [Tool.documentOf (.object [("name", .string "f")])]) (underFirst "max_tokens"
      "max_completion_tokens" (.number (.integer 64)) legacyMembers))
  have removed := (unread "user" (by decide)).2.1.trans toolsMoved
  obtain ⟨-, -, -, -, flag⟩ := variants_write_one_request (eraseMember "user" (underFirst "tools"
    "functions" (.array [Tool.documentOf (.object [("name", .string "f")])]) (underFirst "max_tokens"
      "max_completion_tokens" (.number (.integer 64)) legacyMembers)))
  have current : currentMembers = insertMember "stream" (.bool false) (eraseMember "user" (underFirst
      "tools" "functions" (.array [Tool.documentOf (.object [("name", .string "f")])]) (underFirst
        "max_tokens" "max_completion_tokens" (.number (.integer 64)) legacyMembers))) := by decide
  refine ⟨by decide, by decide, by decide, by decide, by decide, by decide, by decide, read, current,
    ?_, (nulled _ (by decide)).1⟩
  rw [current, flag true false (by decide), removed]
  rfl

end Request

end CompletionCache
