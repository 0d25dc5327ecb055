import CompletionCache.Proofs.Entry.ReadBack
import CompletionCache.Proofs.Request.RoundTrip

/-!
# Responses are carried through

A response that was read from a document is written as that document with three changes
(`Response.carried_through`): choices that were missing are an empty list, a null usage is left out, and
any other usage is the object of its three counters. Nothing else is touched, at any depth, so a response
that is written and read again is the same response.
-/

set_option autoImplicit false

namespace CompletionCache

open Json (Mismatch find? normalizeMembers sortMembers)

/-! ## The last member of a name -/

namespace Json

theorem find?_sortMembers_normalizeMembers (name : String) (members : Members) :
    find? name (sortMembers (normalizeMembers members)) =
      (find? name members.reverse).map normalize := by
  rw [find?_sortMembers, normalizeMembers_eq_map, ← List.map_reverse, ← normalizeMembers_eq_map,
    find?_normalizeMembers]

/-- Of the members under a name that is no field the last one is kept. -/
theorem find?_others_last {layout : Layout} {members : Members} {listed : Option Nat} {name : String}
    (further : name ∉ layout.names) :
    find? name (Record.others ⟨layout, members, listed⟩) =
      (find? name members.reverse).map normalize := by
  have unchecked : (layout.check? name).isNone = true := by
    rw [check?_eq_none_iff.2 further]
    rfl
  rw [Record.others, find?_sortMembers_normalizeMembers, ← List.filter_reverse,
    find?_filter (fun name => (layout.check? name).isNone) unchecked]

end Json

/-! ## Counters -/

namespace Usage

/-- The names of the counters, in the order of a usage that is written as a list. -/
def counterNames : List String := ["prompt_tokens", "completion_tokens", "total_tokens"]

/-- The members of a usage: those of an object, or the items of a list under the names of the
counters. -/
def counted : Json → Members
  | .object members => members
  | .array items => counterNames.zip items
  | _ => []

/-- The three counters of a usage; a missing one is zero. -/
def counters (v : Json) : Json :=
  .object (counterNames.map fun name => (name, (find? name (counted v)).getD (.ofNat 0)))

/-- A record has the counters of its document as members. -/
theorem members_of_record {v : Json} {record : Json.Record} (ok : layout.record v = .ok record) :
    record.members = counted v := by
  cases v with
  | object members => rw [Json.record_object_eq_ok ok, counted]
  | array items =>
    rw [Json.Layout.record] at ok
    split_ifs at ok with collected
    · cases ok
    · obtain ⟨-, -, ok⟩ := Json.bind_eq_ok.1 ok
      cases ok
      rfl
  | _ => cases ok

/-- A counter is written as it stood there, and as zero when it was missing. -/
theorem ofNat_of_field? {record : Json.Record} {name : String} {count : Option UInt64}
    (ok : record.field? name Json.readUInt64 = .ok count) :
    Json.ofNat (count.getD 0).toNat = (find? name record.members).getD (.ofNat 0) := by
  rcases Json.field?_eq_ok.1 ok with ⟨absent, rfl⟩ | ⟨v, n, found, read, rfl⟩
  · rw [absent]
    rfl
  · rw [found, Option.getD_some, Option.getD_some, Json.readUInt64_eq_ok_iff.1 read]

/-- A usage is written as the counters of the document that it was read from. -/
theorem toJson_of_ofJson {v : Json} {usage : Usage} (ok : Usage.ofJson v = .ok usage) :
    usage.toJson = counters v := by
  obtain ⟨record, recordRead, ok⟩ := Json.bind_eq_ok.1 ok
  obtain ⟨prompt, promptRead, ok⟩ := Json.bind_eq_ok.1 ok
  obtain ⟨completion, completionRead, ok⟩ := Json.bind_eq_ok.1 ok
  obtain ⟨total, totalRead, ok⟩ := Json.bind_eq_ok.1 ok
  obtain ⟨-, -, ok⟩ := Json.bind_eq_ok.1 ok
  cases ok
  rw [toJson, ofNat_of_field? promptRead, ofNat_of_field? completionRead,
    ofNat_of_field? totalRead, members_of_record recordRead]
  rfl

/-- A usage is read back from the normal form of its document. -/
theorem ofJson_normalize_toJson (usage : Usage) :
    Usage.ofJson usage.toJson.normalize = .ok usage := by
  have found := Json.find?_normalForm usage.nodup_fieldMembers
  rw [toJson_eq, Json.normalize]
  exact ofJson_of_find? (Json.nodup_names (Json.ascending_sortMembers _)) (found "prompt_tokens")
    (found "completion_tokens") (found "total_tokens")

end Usage

/-! ## Responses that were read -/

namespace Response

variable {members : Members} {response : Response}

/-- A response that was read from a printable document is well-formed. -/
theorem wellFormed_of_ofJson {v : Json} (printable : v.Printable)
    (ok : Response.ofJson v = .ok response) : response.WellFormed := by
  obtain ⟨record, read, ok⟩ := Json.bind_eq_ok.1 ok
  obtain ⟨choices, choicesRead, ok⟩ := Json.bind_eq_ok.1 ok
  obtain ⟨usage, -, ok⟩ := Json.bind_eq_ok.1 ok
  cases ok
  have parts := Json.printable_of_record read printable
  refine ⟨?_, Json.layout_of_record read ▸ Json.collected_others parts⟩
  rcases Json.field?_eq_ok.1 choicesRead with ⟨-, rfl⟩ | ⟨w, inner, found, list, rfl⟩
  · intro choice mem
    cases mem
  · exact Request.forall_of_readList (fun printable read => by
      cases read
      exact Json.wellFormed_normalize printable) (parts _ (Json.mem_of_find? found)) list

/-- What was read: the choices, the usage, and the further members. -/
theorem parts_of_ofJson (ok : Response.ofJson (.object members) = .ok response) :
    layout.checkMembers [] members = .ok () ∧
      Json.array response.choices = ((find? "choices" members).getD (.array [])).normalize ∧
      response.usage.map Usage.toJson =
        ((find? "usage" members).filter (· ≠ .null)).map Usage.counters ∧
      response.extra = Json.Record.others ⟨layout, members, none⟩ := by
  obtain ⟨record, read, ok⟩ := Json.bind_eq_ok.1 ok
  obtain ⟨choices, choicesRead, ok⟩ := Json.bind_eq_ok.1 ok
  obtain ⟨usage, usageRead, ok⟩ := Json.bind_eq_ok.1 ok
  cases ok
  cases Json.record_object_eq_ok read
  obtain ⟨⟨⟩, checked, -⟩ := Json.bind_eq_ok.1 read
  refine ⟨checked, ?_, ?_, rfl⟩
  · rcases Json.field?_eq_ok.1 choicesRead with ⟨absent, rfl⟩ | ⟨v, inner, found, list, rfl⟩
    · dsimp only at absent
      rw [absent]
      rfl
    · dsimp only at found
      -- The choices are put in normal form as they are read.
      obtain ⟨items, rfl, -⟩ := Json.readList_eq_ok list
      rw [Json.readAny_list] at list
      cases list
      rw [found, Option.getD_some, Option.getD_some, Json.normalize, Json.normalizeItems_eq_map]
  · rcases Json.field?_eq_ok.1 usageRead with ⟨absent, rfl⟩ | ⟨v, inner, found, option, rfl⟩
    · dsimp only at absent
      rw [absent]
      rfl
    · dsimp only at found
      rw [found]
      rcases Json.readOption_eq_ok.1 option with ⟨rfl, rfl⟩ | ⟨notNull, usage, read, rfl⟩
      · rfl
      · rw [Option.filter_some, if_pos (by simpa using notNull)]
        exact congrArg some (Usage.toJson_of_ofJson read)

/-! ## What comes back -/

/-- A member as it comes back: a null usage is left out, and any other usage gives way to its
counters. -/
def carriedMember : String × Json → Option (String × Json)
  | (name, value) =>
    if name = "usage" then
      if value = .null then none else some (name, Usage.counters value)
    else some (name, value)

/-- The members of a response as they come back; choices that are missing are an empty list. -/
def carried (members : Members) : Members :=
  (if (find? "choices" members).isNone then [("choices", .array [])] else []) ++
    members.filterMap carriedMember

theorem find?_filterMap_carriedMember {name : String} (other : name ≠ "usage") (members : Members) :
    find? name (members.filterMap carriedMember) = find? name members := by
  induction members with
  | nil => rfl
  | cons member members ih =>
    obtain ⟨here, value⟩ := member
    rw [List.filterMap_cons, carriedMember]
    by_cases usage : here = "usage"
    · have different : here ≠ name := fun same => other (same ▸ usage)
      rw [if_pos usage, find?, if_neg different]
      split_ifs
      · exact ih
      · dsimp only
        rw [find?, if_neg different, ih]
    · rw [if_neg usage]
      dsimp only
      rw [find?, find?, ih]

/-- There is one usage at most, and what comes back of it are its counters. -/
theorem find?_usage_carried {seen : List String} (ok : layout.checkMembers seen members = .ok ()) :
    find? "usage" (members.filterMap carriedMember).reverse =
      ((find? "usage" members).filter (· ≠ .null)).map Usage.counters := by
  induction members generalizing seen with
  | nil => rfl
  | cons member members ih =>
    obtain ⟨here, value⟩ := member
    rw [List.filterMap_cons, carriedMember, find?]
    by_cases usage : here = "usage"
    · subst usage
      -- No usage follows this one.
      have rest : layout.checkMembers ("usage" :: seen) members = .ok () := by
        rcases Json.checkMembers_cons_eq_ok_iff.1 ok with ⟨further, -, -⟩ | ⟨-, -, -, -, rest⟩
        · cases further
        · exact rest
      have last := ih rest
      rw [Json.find?_eq_none_of_seen rest (by decide) List.mem_cons_self] at last
      rw [if_pos rfl, if_pos rfl, Option.filter_some]
      by_cases null : value = .null
      · rw [if_pos null, if_neg (by simpa using null)]
        exact last
      · rw [if_neg null, if_pos (by simpa using null)]
        dsimp only
        rw [List.reverse_cons, Json.find?_append, last]
        rfl
    · -- A member of another name stands behind those that follow, and does not hide them.
      rw [if_neg usage, if_neg usage]
      dsimp only
      rw [List.reverse_cons, Json.find?_append, find?, if_neg usage, find?, Option.or_none]
      rcases Json.checkMembers_cons_eq_ok_iff.1 ok with ⟨-, -, rest⟩ | ⟨-, -, -, -, rest⟩
      · exact ih rest
      · exact ih rest

theorem find?_choices_carried (ok : layout.checkMembers [] members = .ok ()) :
    find? "choices" (carried members).reverse =
      some ((find? "choices" members).getD (.array [])) := by
  have once := Json.find?_reverse_of_checkMembers ok (show "choices" ∈ layout.names by decide)
  rw [carried, List.reverse_append, Json.find?_append, ← List.filterMap_reverse,
    find?_filterMap_carriedMember (by decide), once]
  cases find? "choices" members <;> rfl

theorem find?_carried {name : String} (further : name ∉ layout.names) :
    find? name (carried members).reverse = find? name members.reverse := by
  have choices : "choices" ≠ name := by
    rintro rfl
    exact further (by decide)
  have usage : name ≠ "usage" := by
    rintro rfl
    exact further (by decide)
  rw [carried, List.reverse_append, Json.find?_append, ← List.filterMap_reverse,
    find?_filterMap_carriedMember usage]
  split_ifs
  · rw [List.reverse_singleton, find?, if_neg choices, find?, Option.or_none]
  · rw [List.reverse_nil, find?, Option.or_none]

/-- A response is written as the members that come back. -/
theorem normalize_toJson_of_ofJson (wellFormed : response.WellFormed)
    (ok : Response.ofJson (.object members) = .ok response) :
    response.toJson.normalize = (Json.object (carried members)).normalize := by
  obtain ⟨checked, choices, usage, extra⟩ := parts_of_ofJson ok
  have nodup := wellFormed.extra.nodup_append response.names_fieldMembers (by decide)
  rw [toJson_eq, Json.normalize, Json.normalize]
  -- Members in order are determined by what they give for every name, be it a field or not.
  refine congrArg Json.object (Json.eq_of_find?_eq (Json.ascending_sortMembers _)
    (Json.ascending_sortMembers _) fun name => ?_)
  rw [Json.find?_normalForm nodup, Json.find?_sortMembers_normalizeMembers]
  by_cases field : name ∈ layout.names
  · rcases List.mem_pair.1 (show name ∈ ["choices", "usage"] from field) with rfl | rfl
    · rw [find?_choices, find?_choices_carried checked, Option.map_some, choices,
        Json.normalize_normalize, Option.map_some]
    · rw [wellFormed.find?_usage, usage, carried, List.reverse_append, Json.find?_append,
        find?_usage_carried checked]
      split_ifs <;> simp [find?]
  · rw [Json.find?_append, Json.find?_eq_none_of_sublist response.names_fieldMembers field,
      Option.none_or, wellFormed.extra.map_find?_normalize, extra, Json.find?_others_last field,
      find?_carried field]

/-! ## Reading again -/

/-- A well-formed response is read back from the normal form of its document. -/
theorem ofJson_normalize_toJson (wellFormed : response.WellFormed) :
    Response.ofJson response.toJson.normalize = .ok response := by
  obtain ⟨members, form, ascending, found, others⟩ := wellFormed.extra.normalForm
    response.names_fieldMembers (by decide) (response.toJson_eq ▸ wellFormed.printable)
  have choices : find? "choices" members = some (.array response.choices) := by
    have normal := (Json.wellFormed_array_iff.2 wellFormed.choices).normal
    rw [found "choices" (by decide)]
    exact congrArg some normal
  have usage : find? "usage" members =
      response.usage.map fun usage => usage.toJson.normalize := by
    rw [found "usage" (by decide)]
    simp [fieldMembers, find?, Json.find?_optionalMember]
    rfl
  rw [toJson_eq, form]
  exact ofJson_of_find? wellFormed (Json.nodup_names ascending) choices usage
    Usage.ofJson_normalize_toJson others

/-- A document that was read as a response and written again. -/
def passed (v : Json) : Except Mismatch Json :=
  (fun response => response.toJson.normalize) <$> Response.ofJson v

/-- Let a response be read from an object. It is written as the object with three changes: choices that
are missing are an empty list, a null usage is left out, and any other usage is the object of its three
counters, those that are missing zero. What is written is read as the response again, in either order of
its members, so a second pass changes nothing. The total of the response is that of the counters, and zero
where there is no usage. -/
theorem carried_through (printable : (Json.object members).Printable)
    (read : Response.ofJson (.object members) = .ok response) :
    response.toJson.normalize = (Json.object (carried members)).normalize ∧
    Response.ofJson response.toJson = .ok response ∧
    Response.ofJson response.toJson.normalize = .ok response ∧
    passed (.object members) >>= passed = passed (.object members) ∧
    Json.ofNat response.totalTokens.toNat =
      (((find? "usage" members).filter (· ≠ .null)).bind fun usage =>
        (Usage.counters usage).member? "total_tokens").getD (.ofNat 0) := by
  have wellFormed := wellFormed_of_ofJson printable read
  have again := ofJson_normalize_toJson wellFormed
  refine ⟨normalize_toJson_of_ofJson wellFormed read, ofJson_toJson wellFormed, again, ?_, ?_⟩
  · have pass : passed (.object members) = .ok response.toJson.normalize := by
      rw [passed, read]
      rfl
    have passAgain : passed response.toJson.normalize = .ok response.toJson.normalize := by
      rw [passed, again]
      rfl
    rw [pass]
    exact passAgain
  · obtain ⟨-, -, usage, -⟩ := parts_of_ofJson read
    cases present : (find? "usage" members).filter (· ≠ .null) with
    | none =>
      rw [present] at usage
      rw [totalTokens, Option.map_eq_none_iff.1 usage]
      rfl
    | some v =>
      rw [present] at usage
      obtain ⟨counts, given, same⟩ := Option.map_eq_some_iff.1 usage
      rw [totalTokens, given, Option.bind_some, ← same]
      rfl

/-- An object without choices that lists two counters, in front of further members out of order. -/
def listedMembers : Members :=
  [("usage", .array [.ofNat 3, .ofNat 1]), ("object", .string "chat.completion"),
    ("meta", .object [("region", .null), ("latency", .ofBinary64 .one)])]

/-- The response of that object. -/
def listedResponse : Response where
  choices := []
  usage := some ⟨3, 1, 0⟩
  extra := [("meta", .object [("latency", .ofBinary64 .one), ("region", .null)]),
    ("object", .string "chat.completion")]

/-- The choices are added, the list gives way to three counters, and the rest comes back. -/
theorem carried_through_listed :
    (Json.object listedMembers).Printable ∧
    Response.ofJson (.object listedMembers) = .ok listedResponse ∧
    carried listedMembers =
      [("choices", .array []),
        ("usage", .object [("prompt_tokens", .ofNat 3), ("completion_tokens", .ofNat 1),
          ("total_tokens", .ofNat 0)]),
        ("object", .string "chat.completion"),
        ("meta", .object [("region", .null), ("latency", .ofBinary64 .one)])] ∧
    listedResponse.toJson.normalize = (Json.object (carried listedMembers)).normalize ∧
    Response.ofJson listedResponse.toJson.normalize = .ok listedResponse ∧
    Json.ofNat listedResponse.totalTokens.toNat = .ofNat 0 := by
  have printable : (Json.object listedMembers).Printable := by decide
  have read : Response.ofJson (.object listedMembers) = .ok listedResponse := rfl
  obtain ⟨written, -, again, -, total⟩ := carried_through printable read
  exact ⟨printable, read, by decide, written, again, total⟩

end Response

end CompletionCache
