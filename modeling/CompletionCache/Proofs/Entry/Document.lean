import CompletionCache.Entry
import CompletionCache.Proofs.Json.Record
import CompletionCache.Proofs.Json.RecordReader

/-!
# Documents of entries

A response is well-formed when its choices are, and when its further members shadow no field. The
document of such a response is read as that response (`Response.ofJson_toJson`), and it is recovered
from its text unless a number of it is lost there (`Response.WellFormed.recovers`). Then the text of an
entry gives back the response that the entry was made with (`Entry.response_of_ofText?`). Nothing is
said here of the instants of the entry, which its document holds rounded, and its text may round again.
-/

set_option autoImplicit false

namespace CompletionCache

open Json (Collected find? optionalMember)

/-! ## Responses -/

/-- A response of well-formed documents whose further members shadow no field. -/
structure Response.WellFormed (response : Response) : Prop where
  choices : ∀ choice ∈ response.choices, choice.WellFormed
  extra : Collected Response.layout.names response.extra

/-- What the assistant says does not matter for the form of a response. -/
theorem Response.wellFormed_ofText (content : String) : (ofText content).WellFormed := by
  refine ⟨?_, ⟨.nil, nofun, fun _ _ => rfl⟩⟩
  intro choice mem
  rw [List.mem_singleton.1 mem]
  have text : ∀ content, (Json.string content).WellFormed :=
    fun content => ⟨Json.printable_string content, rfl⟩
  have message : (Json.object
      [("content", .string content), ("role", .string "assistant")]).WellFormed := by
    rw [Json.wellFormed_object_iff]
    refine ⟨List.pairwise_map.1 (show ["content", "role"].Pairwise (· < ·) by decide), ?_⟩
    exact Json.forall_cons (text _) (Json.forall_cons (text _) nofun)
  rw [Json.wellFormed_object_iff]
  refine ⟨List.pairwise_map.1
    (show ["finish_reason", "index", "message"].Pairwise (· < ·) by decide), ?_⟩
  exact Json.forall_cons (text _) (Json.forall_cons (by decide) (Json.forall_cons message nofun))

/-- The counters as members. -/
def Usage.fieldMembers (usage : Usage) : Members :=
  [("prompt_tokens", .ofNat usage.promptTokens.toNat),
    ("completion_tokens", .ofNat usage.completionTokens.toNat),
    ("total_tokens", .ofNat usage.totalTokens.toNat)]

theorem Usage.toJson_eq (usage : Usage) : usage.toJson = .object usage.fieldMembers := rfl

theorem Usage.nodup_fieldMembers (usage : Usage) : (usage.fieldMembers.map (·.1)).Nodup :=
  show ["prompt_tokens", "completion_tokens", "total_tokens"].Nodup by decide

/-- A usage is read from members that hold its counters, in any order. -/
theorem Usage.ofJson_of_find? {usage : Usage} {members : Members}
    (nodup : (members.map (·.1)).Nodup)
    (prompt : find? "prompt_tokens" members = some (.ofNat usage.promptTokens.toNat))
    (completion : find? "completion_tokens" members = some (.ofNat usage.completionTokens.toNat))
    (total : find? "total_tokens" members = some (.ofNat usage.totalTokens.toNat)) :
    Usage.ofJson (.object members) = .ok usage := by
  have counter {name : String} {n : UInt64} (there : find? name members = some (.ofNat n.toNat)) :
      Json.Record.field? ⟨layout, members, none⟩ name Json.readUInt64 = .ok (some n) :=
    Json.field?_of_find? there (Json.readUInt64_eq_ok_iff.2 rfl)
  have record : layout.record (.object members) = .ok ⟨layout, members, none⟩ := by
    apply Json.record_of_passes (by decide) nodup
    intro field mem
    simp only [layout, List.mem_cons, List.not_mem_nil, or_false] at mem
    rcases mem with rfl | rfl | rfl
    · exact Json.passes_of_field? (counter prompt)
    · exact Json.passes_of_field? (counter completion)
    · exact Json.passes_of_field? (counter total)
  rw [Usage.ofJson, Json.bind_of_ok record, Json.bind_of_ok (counter prompt),
    Json.bind_of_ok (counter completion), Json.bind_of_ok (counter total)]
  rfl

theorem Usage.ofJson_toJson (usage : Usage) : Usage.ofJson usage.toJson = .ok usage :=
  ofJson_of_find? usage.nodup_fieldMembers rfl rfl rfl

/-- The fields of a response as members. -/
def Response.fieldMembers (response : Response) : Members :=
  ("choices", .array response.choices) :: optionalMember "usage" Usage.toJson response.usage

theorem Response.toJson_eq (response : Response) :
    response.toJson = .object (response.fieldMembers ++ response.extra) := rfl

theorem Response.names_fieldMembers (response : Response) :
    (response.fieldMembers.map (·.1)).Sublist Response.layout.names :=
  Json.names_cons_sublist (Json.names_optionalMember_sublist "usage" Usage.toJson response.usage)
    "choices" (.array response.choices)

theorem Json.readList_readAny {items : List Json} (wellFormed : ∀ item ∈ items, item.WellFormed) :
    readList readAny (array items) = .ok items := by
  have normal : items.map normalize = items.map id :=
    List.map_congr_left fun item mem => (wellFormed item mem).normal
  rw [readAny_list, normal, List.map_id]

theorem Response.find?_choices (response : Response) :
    find? "choices" (response.fieldMembers ++ response.extra) = some (.array response.choices) := by
  simp [fieldMembers, find?]

/-- An absent usage leaves no member, and no further member takes its place. -/
theorem Response.WellFormed.find?_usage {response : Response} (wellFormed : response.WellFormed) :
    find? "usage" (response.fieldMembers ++ response.extra) =
      response.usage.map Usage.toJson := by
  rw [Json.find?_append, wellFormed.extra.apart "usage" (by decide), Option.or_none]
  simp [fieldMembers, find?, Json.find?_optionalMember]

/-- A response is read from members that hold its choices, its usage in a form that is read, and its
further members. -/
theorem Response.ofJson_of_find? {response : Response} {members : Members} {write : Usage → Json}
    (wellFormed : response.WellFormed) (nodup : (members.map (·.1)).Nodup)
    (choices : find? "choices" members = some (.array response.choices))
    (usage : find? "usage" members = response.usage.map write)
    (written : ∀ usage, Usage.ofJson (write usage) = .ok usage)
    (others : Json.Record.others ⟨layout, members, none⟩ = response.extra) :
    Response.ofJson (.object members) = .ok response := by
  have choicesRead : Json.Record.field? ⟨layout, members, none⟩ "choices"
      (Json.readList Json.readAny) = .ok (some response.choices) :=
    Json.field?_of_find? choices (Json.readList_readAny wellFormed.choices)
  obtain ⟨counted, usageRead, usageSame⟩ : ∃ counted, Json.Record.field? ⟨layout, members, none⟩
      "usage" (Json.readOption Usage.ofJson) = .ok counted ∧ counted.join = response.usage := by
    cases given : response.usage with
    | none =>
      rw [given] at usage
      exact ⟨none, Json.field?_eq_ok.2 (.inl ⟨usage, rfl⟩), rfl⟩
    | some counts =>
      rw [given] at usage
      refine ⟨some (some counts), Json.field?_of_find? usage ?_, rfl⟩
      refine Json.readOption_eq_ok.2 (.inr ⟨?_, counts, written counts, rfl⟩)
      -- Nothing is read from null.
      intro null
      have read := written counts
      rw [null] at read
      cases read
  have record : layout.record (.object members) = .ok ⟨layout, members, none⟩ := by
    apply Json.record_of_passes (by decide) nodup
    intro field mem
    rcases List.mem_pair.1 mem with rfl | rfl
    · exact Json.passes_of_field? choicesRead
    · exact Json.passes_of_field? usageRead
  rw [Response.ofJson, Json.bind_of_ok record, Json.bind_of_ok choicesRead,
    Json.bind_of_ok usageRead, others, usageSame]
  rfl

theorem Response.ofJson_toJson {response : Response} (wellFormed : response.WellFormed) :
    Response.ofJson response.toJson = .ok response :=
  ofJson_of_find? wellFormed
    (wellFormed.extra.nodup_append response.names_fieldMembers (by decide)) response.find?_choices
    wellFormed.find?_usage Usage.ofJson_toJson
    (wellFormed.extra.others_eq response.names_fieldMembers)

/-! ## Printable documents -/

theorem Json.printable_ofUInt64 (n : UInt64) : (Json.ofNat n.toNat).Printable := by
  intro m mem
  rw [List.mem_singleton.1 mem]
  have small := n.toNat_lt
  refine ⟨?_, ?_⟩
  · rw [Number.leastInteger]
    omega
  · rw [Number.greatestInteger]
    omega

theorem Json.printable_ofBinary64 (x : Binary64) : (Json.ofBinary64 x).Printable := by
  intro n mem
  rw [Json.ofBinary64] at mem
  split_ifs at mem with finite
  · rw [List.mem_singleton.1 mem]
    exact finite
  · cases mem

theorem Usage.printable_toJson (usage : Usage) : usage.toJson.Printable := by
  rw [toJson, Json.printable_object_iff]
  refine Json.forall_cons (Json.printable_ofUInt64 _) (Json.forall_cons (Json.printable_ofUInt64 _)
    (Json.forall_cons (Json.printable_ofUInt64 _) ?_))
  intro member mem
  cases mem

theorem Response.WellFormed.printable {response : Response} (wellFormed : response.WellFormed) :
    response.toJson.Printable := by
  rw [toJson_eq, Json.printable_object_iff]
  refine Json.forall_append (Json.forall_cons ?_ ?_) wellFormed.extra.printable
  · exact Json.printable_array_iff.2 fun choice mem => (wellFormed.choices choice mem).printable
  · exact Json.forall_optionalMember fun usage _ => usage.printable_toJson

/-! ## Texts -/

theorem Json.lossless_ofNat (round : Binary64.Rounding) (n : Nat) :
    (Json.ofNat n).Lossless round := by
  intro m mem
  rw [List.mem_singleton.1 mem]
  trivial

/-- The only number that `Response.ofText` writes is an integer. -/
theorem Response.lossless_ofText (round : Binary64.Rounding) (content : String) :
    (ofText content).toJson.Lossless round := by
  intro n mem
  have numbers : (ofText content).toJson.numbers = [.integer 0] := rfl
  rw [numbers] at mem
  rw [List.mem_singleton.1 mem]
  trivial

theorem Json.recovers_string (value : String) : Json.Recovers Json.readDocument (.string value) :=
  Json.recovers_written _ (Json.printable_string value) (by simp [Json.Lossless, Json.numbers])

theorem Json.recovers_ofUInt64 (n : UInt64) :
    Json.Recovers Json.readDocument (.ofNat n.toNat) :=
  Json.recovers_written _ (Json.printable_ofUInt64 n) (Json.lossless_ofNat _ _)

theorem Usage.recovers (usage : Usage) : Json.Recovers Usage.reader usage.toJson := by
  have counters : ∀ member ∈ usage.fieldMembers, Json.Recovers Json.readDocument member.2 :=
    Json.forall_cons (Json.recovers_ofUInt64 _) (Json.forall_cons (Json.recovers_ofUInt64 _)
      (Json.forall_cons (Json.recovers_ofUInt64 _) (by simp)))
  refine Json.recovers_object ?_
  intro member mem
  have field : member.1 ∈ Usage.layout.names := List.mem_map_of_mem (f := (·.1)) mem
  rw [Json.readerOf_field field]
  exact counters member mem

/-- A well-formed response that loses no number is recovered from its text. -/
theorem Response.WellFormed.recovers {response : Response} (wellFormed : response.WellFormed)
    (lossless : response.toJson.Lossless Binary64.readScaled) :
    Json.Recovers Response.reader response.toJson := by
  have any : ∀ member ∈ response.fieldMembers ++ response.extra,
      Json.Recovers Json.readDocument member.2 :=
    Json.recovers_members _ (Json.printable_object_iff.1 wellFormed.printable)
      fun _ => lossless.of_mem_object
  refine Json.recovers_object ?_
  intro member mem
  rcases List.mem_append.1 mem with inFields | inExtra
  · have field := response.names_fieldMembers.subset (List.mem_map_of_mem inFields)
    rw [Json.readerOf_field field]
    rcases List.mem_cons.1 inFields with rfl | inUsage
    · exact any _ mem
    · cases given : response.usage with
      | none =>
        rw [given] at inUsage
        cases inUsage
      | some usage =>
        rw [given] at inUsage
        cases List.mem_singleton.1 inUsage
        exact usage.recovers
  · have apart := Json.check?_eq_none_iff.1 (wellFormed.extra.check?_eq_none inExtra)
    rw [Json.readerOf_others apart]
    exact any member mem

namespace Entry

/-- The members of the document of an entry. -/
def fieldMembers (entry : Entry) : Members :=
  [("key", .string entry.key), ("response", entry.response.toJson),
    ("created_at", .ofBinary64 (Instant.toSeconds entry.createdAt)),
    ("expires_at", .ofBinary64 (Instant.toSeconds entry.expiresAt)),
    ("model", .string entry.model), ("tokens", .ofNat entry.tokens.toNat)]

theorem toJson_eq (entry : Entry) : entry.toJson = .object entry.fieldMembers := rfl

theorem printable_toJson {entry : Entry} (wellFormed : entry.response.WellFormed) :
    entry.toJson.Printable := by
  rw [toJson, Json.printable_object_iff]
  refine Json.forall_cons (Json.printable_string _) (Json.forall_cons wellFormed.printable
    (Json.forall_cons (Json.printable_ofBinary64 _) (Json.forall_cons (Json.printable_ofBinary64 _)
      (Json.forall_cons (Json.printable_string _) (Json.forall_cons (Json.printable_ofUInt64 _)
        ?_)))))
  intro member mem
  cases mem

theorem response_of_ofJson {members : Members} {response : Response} {read : Entry}
    (wellFormed : response.WellFormed) (found : find? "response" members = some response.toJson)
    (ok : Entry.ofJson (.object members) = .ok read) : read.response = response := by
  obtain ⟨record, recordRead, ok⟩ := Json.bind_eq_ok.1 ok
  cases Json.record_object_eq_ok recordRead
  obtain ⟨key, -, ok⟩ := Json.bind_eq_ok.1 ok
  obtain ⟨kept, responseRead, ok⟩ := Json.bind_eq_ok.1 ok
  obtain ⟨createdAt, -, ok⟩ := Json.bind_eq_ok.1 ok
  obtain ⟨expiresAt, -, ok⟩ := Json.bind_eq_ok.1 ok
  obtain ⟨model, -, ok⟩ := Json.bind_eq_ok.1 ok
  obtain ⟨tokens, -, ok⟩ := Json.bind_eq_ok.1 ok
  obtain ⟨-, -, ok⟩ := Json.bind_eq_ok.1 ok
  cases ok
  -- Of all that is read only the response matters here.
  obtain ⟨v, there, decoded⟩ := Json.field_eq_ok responseRead
  cases found.symm.trans there
  exact Except.ok.inj (decoded.symm.trans (Response.ofJson_toJson wellFormed))

/-- A text writes an entry when it is read as a document that writes it. -/
theorem ofText?_eq_some_iff {text : String} {entry : Entry} :
    ofText? text = some entry ↔
      ∃ document, Json.readAll reader text.toList = .ok document ∧ ofJson document = .ok entry := by
  rw [ofText?]
  constructor
  · intro some
    obtain ⟨document, read, decoded⟩ := Option.bind_eq_some_iff.1 some
    exact ⟨document, Json.eq_ok_of_toOption read, Json.eq_ok_of_toOption decoded⟩
  · rintro ⟨document, read, decoded⟩
    rw [read]
    show (ofJson document).toOption = some entry
    rw [decoded]
    rfl

/-- What must be read in the place of a member for the response to be kept. -/
def KeepsResponse (member : String × Json) (v : Json) : Prop := member.1 = "response" → v = member.2

/-- A member of an entry that is read as something that keeps the response, or refused, whatever
stands behind it. -/
def IsRead (fits : Prop) (member : String × Json) : Prop :=
  ∀ {rest : List Char}, Json.EndsNumber rest → Json.ReadsAs fits (KeepsResponse member)
    (Json.readerOf (layout.readers [("response", Response.reader)]) Json.passOver member.1 126
      (member.2.written ++ rest)) rest

theorem exists_isRead {name : String} {v : Json} (field : name ∈ layout.names)
    (recovers : Json.Recovers
      (Json.readerOf [("response", Response.reader)] Json.readDocument name) v) :
    ∃ fits, IsRead fits (name, v) := by
  refine ⟨v.nesting ≤ 126, ?_⟩
  intro rest ends
  rw [Json.readerOf_field field]
  exact (recovers 126 ends).congr Iff.rfl fun _ same _ => same

theorem exists_isRead_ofBinary64 {name : String} (x : Binary64) (field : name ∈ layout.names)
    (apart : name ≠ "response") : ∃ fits, IsRead fits (name, .ofBinary64 x) := by
  obtain ⟨fits, reads⟩ := Json.exists_readsAs_ofBinary64 Binary64.readScaled x
  refine ⟨fits, ?_⟩
  intro rest ends
  have plain : Json.readerOf [("response", Response.reader)] Json.readDocument name =
      Json.readDocument := by
    rw [Json.readerOf, List.lookup_cons, beq_false_of_ne apart]
    rfl
  rw [Json.readerOf_field field, plain]
  exact (reads 126 ends).congr Iff.rfl fun _ _ same => absurd same apart

/-- Whatever entry is read from the text of an entry carries the same response, if this loses no
number; the instants may be read as any others. -/
theorem response_of_ofText? {entry read : Entry} (wellFormed : entry.response.WellFormed)
    (lossless : entry.response.toJson.Lossless Binary64.readScaled)
    (ok : ofText? entry.toJson.text = some read) : read.response = entry.response := by
  obtain ⟨document, parsed, decoded⟩ := ofText?_eq_some_iff.1 ok
  have each : ∀ member ∈ entry.fieldMembers, ∃ fits, IsRead fits member := by
    intro member mem
    simp only [fieldMembers, List.mem_cons, List.not_mem_nil, or_false] at mem
    rcases mem with rfl | rfl | rfl | rfl | rfl | rfl
    · exact exists_isRead (by decide) (Json.recovers_string _)
    · exact exists_isRead (by decide) (wellFormed.recovers lossless)
    · exact exists_isRead_ofBinary64 _ (by decide) (by decide)
    · exact exists_isRead_ofBinary64 _ (by decide) (by decide)
    · exact exists_isRead (by decide) (Json.recovers_string _)
    · exact exists_isRead (by decide) (Json.recovers_ofUInt64 _)
  choose! fits reads using each
  have object := Json.readsAs_object 126 reads []
  obtain ⟨members, rfl, same⟩ := object.of_readAll parsed
  have there : find? "response" entry.fieldMembers = some entry.response.toJson := rfl
  obtain ⟨v, found, holds⟩ := Json.find?_of_forall₂ same there
  cases holds rfl
  exact response_of_ofJson wellFormed found decoded

end Entry

end CompletionCache
