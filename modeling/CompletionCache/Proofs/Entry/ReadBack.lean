import CompletionCache.Proofs.Entry.Document
import CompletionCache.Proofs.Entry.Instants
import CompletionCache.Proofs.Entry.Lifetime

/-!
# Documents are read back

The text of an entry's document is read as an entry with the same key, response, model and tokens, as
long as its numbers are read from their texts as themselves, the document is not nested too deeply and
its instants lie below `2 ^ 53` seconds (`Entry.Legible.exists_ofText?`); at whole seconds it is the
entry itself (`Entry.Legible.ofText?_of_whole`). A document that is nested deeper is not read at all
(`Entry.ofText?_of_deep`).
-/

set_option autoImplicit false

namespace CompletionCache

namespace Entry

theorem nodup_fieldMembers (entry : Entry) : (entry.fieldMembers.map (·.1)).Nodup :=
  show ["key", "response", "created_at", "expires_at", "model", "tokens"].Nodup by decide

/-- The document of an entry is read when its response and its instants are. -/
theorem ofJson_toJson {entry : Entry} (wellFormed : entry.response.WellFormed)
    {createdAt expiresAt : Instant}
    (created : Instant.ofSeconds? (Instant.toSeconds entry.createdAt) = some createdAt)
    (expires : Instant.ofSeconds? (Instant.toSeconds entry.expiresAt) = some expiresAt) :
    Entry.ofJson entry.toJson =
      .ok { entry with createdAt := createdAt, expiresAt := expiresAt } := by
  have key : Json.Record.field ⟨layout, entry.fieldMembers, none⟩ "key" Json.readText = .ok entry.key :=
    Json.field_of_find? rfl rfl
  have response : Json.Record.field ⟨layout, entry.fieldMembers, none⟩ "response" Response.ofJson =
      .ok entry.response := Json.field_of_find? rfl (Response.ofJson_toJson wellFormed)
  have createdRead : Json.Record.field ⟨layout, entry.fieldMembers, none⟩ "created_at" readInstant =
      .ok createdAt := Json.field_of_find? rfl (readInstant_ofBinary64 created)
  have expiresRead : Json.Record.field ⟨layout, entry.fieldMembers, none⟩ "expires_at" readInstant =
      .ok expiresAt := Json.field_of_find? rfl (readInstant_ofBinary64 expires)
  have model : Json.Record.field ⟨layout, entry.fieldMembers, none⟩ "model" Json.readText =
      .ok entry.model := Json.field_of_find? rfl rfl
  have tokens : Json.Record.field ⟨layout, entry.fieldMembers, none⟩ "tokens" Json.readUInt64 =
      .ok entry.tokens := Json.field_of_find? rfl (Json.readUInt64_eq_ok_iff.2 rfl)
  have record : layout.record (.object entry.fieldMembers) =
      .ok ⟨layout, entry.fieldMembers, none⟩ := by
    apply Json.record_of_passes (by decide) entry.nodup_fieldMembers
    intro field mem
    simp only [layout, List.mem_cons, List.not_mem_nil, or_false] at mem
    rcases mem with rfl | rfl | rfl | rfl | rfl | rfl
    · exact Json.passes_of_field key
    · exact Json.passes_of_field response
    · exact Json.passes_of_field createdRead
    · exact Json.passes_of_field expiresRead
    · exact Json.passes_of_field model
    · exact Json.passes_of_field tokens
  rw [toJson_eq, Entry.ofJson, Json.bind_of_ok record, Json.bind_of_ok key, Json.bind_of_ok response,
    Json.bind_of_ok createdRead, Json.bind_of_ok expiresRead, Json.bind_of_ok model,
    Json.bind_of_ok tokens]
  rfl

/-- The document of an entry is nested one deeper than that of its response. -/
theorem nesting_toJson (entry : Entry) :
    entry.toJson.nesting = entry.response.toJson.nesting + 1 := by
  have flat : ∀ x : Binary64, (Json.ofBinary64 x).nesting = 0 := by
    intro x
    rw [Json.ofBinary64]
    split <;> rfl
  simp [toJson, Json.nesting, Json.nestingMembers, flat, Json.ofNat]

/-- A document of a well-formed response that loses no number is recovered from its text. -/
theorem recovers {entry : Entry} (wellFormed : entry.response.WellFormed)
    (lossless : entry.toJson.Lossless Binary64.readScaled) : Json.Recovers reader entry.toJson := by
  have any : ∀ member ∈ entry.fieldMembers, Json.Recovers Json.readDocument member.2 :=
    Json.recovers_members _ (Json.printable_object_iff.1 (printable_toJson wellFormed))
      fun _ => lossless.of_mem_object
  have response : Json.Recovers Response.reader entry.response.toJson :=
    wellFormed.recovers (lossless.of_mem_object (.tail _ (.head _)))
  refine Json.recovers_object ?_
  intro member mem
  have field : member.1 ∈ layout.names := List.mem_map_of_mem (f := (·.1)) mem
  rw [Json.readerOf_field field]
  have each := any member mem
  simp only [List.mem_cons, List.not_mem_nil, or_false] at mem
  -- All fields but the response are read like any value.
  rcases mem with rfl | rfl | rfl | rfl | rfl | rfl
  · exact each
  · exact response
  · exact each
  · exact each
  · exact each
  · exact each

/-- A document that is nested too deeply is not read. -/
theorem ofText?_of_deep {entry : Entry} (wellFormed : entry.response.WellFormed)
    (lossless : entry.toJson.Lossless Binary64.readScaled)
    (deep : Json.maxNesting < entry.toJson.nesting) : ofText? entry.toJson.text = none := by
  obtain ⟨fault, failed⟩ := (recovers wellFormed lossless).readAll_of_deep deep
  rw [ofText?, failed]
  rfl

/-- An entry whose document is read back: its response is well-formed, its numbers are read from their
texts as themselves, the document is not nested too deeply, and both instants lie before `2 ^ 53`
seconds. -/
structure Legible (entry : Entry) : Prop where
  wellFormed : entry.response.WellFormed
  lossless : entry.toJson.Lossless Binary64.readScaled
  shallow : entry.toJson.nesting ≤ Json.maxNesting
  created : entry.createdAt < (2 ^ 53 * nanosPerSecond : Nat)
  expires : entry.expiresAt < (2 ^ 53 * nanosPerSecond : Nat)

/-- The entry that is made for a well-formed response is legible if its document is not nested too
deeply, loses no number and its lifetime ends in time. -/
theorem legible_create {now : Instant} {key : String} {response : Response} {model : String}
    {tokens : UInt64} {ttl : Duration} (wellFormed : response.WellFormed)
    (early : now + ttl < (2 ^ 53 * nanosPerSecond : Nat))
    (lossless : (create now key response model tokens ttl).toJson.Lossless Binary64.readScaled)
    (shallow : (create now key response model tokens ttl).toJson.nesting ≤ Json.maxNesting) :
    (create now key response model tokens ttl).Legible := by
  have fits : now + ttl < Instant.clockEnd := Int.lt_trans early (by decide)
  have whole : (create now key response model tokens ttl).expiresAt = now + ttl :=
    expiry_of_fits fits
  have created : now < (2 ^ 53 * nanosPerSecond : Nat) :=
    Int.lt_of_le_of_lt (Int.le_add_of_nonneg_right (Int.natCast_nonneg _)) early
  exact ⟨wellFormed, lossless, shallow, created, by rwa [whole]⟩

/-- The text of a legible entry is read as the entry that its document writes. -/
theorem Legible.ofText?_eq_some {entry read : Entry} (legible : entry.Legible)
    (ok : Entry.ofJson entry.toJson = .ok read) : ofText? entry.toJson.text = some read :=
  ofText?_eq_some_iff.2
    ⟨_, (recovers legible.wellFormed legible.lossless).readAll legible.shallow, ok⟩

/-- The text of a legible entry is read as the entry with its instants rounded, which are less than a
second too early. -/
theorem Legible.exists_ofText? {entry : Entry} (legible : entry.Legible) :
    ∃ createdAt expiresAt : Instant, ofText? entry.toJson.text =
        some { entry with createdAt := createdAt, expiresAt := expiresAt } ∧
      entry.expiresAt - nanosPerSecond < expiresAt := by
  obtain ⟨createdAt, created, -⟩ := Instant.exists_ofSeconds?_toSeconds legible.created
  obtain ⟨expiresAt, expires, late, -⟩ := Instant.exists_ofSeconds?_toSeconds legible.expires
  exact ⟨createdAt, expiresAt,
    legible.ofText?_eq_some (ofJson_toJson legible.wellFormed created expires), late⟩

/-- At whole seconds nothing is rounded, and the entry itself is read back. -/
theorem Legible.ofText?_of_whole {entry : Entry} (legible : entry.Legible) {created expires : Nat}
    (createdAt : entry.createdAt = (created * nanosPerSecond : Nat))
    (expiresAt : entry.expiresAt = (expires * nanosPerSecond : Nat)) :
    ofText? entry.toJson.text = some entry := by
  obtain ⟨read, same, -, whole⟩ := Instant.exists_ofSeconds?_toSeconds legible.created
  obtain ⟨read', same', -, whole'⟩ := Instant.exists_ofSeconds?_toSeconds legible.expires
  apply legible.ofText?_eq_some
  rw [ofJson_toJson legible.wellFormed same same', whole created createdAt, whole' expires expiresAt]

end Entry

end CompletionCache
