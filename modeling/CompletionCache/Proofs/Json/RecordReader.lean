import CompletionCache.Json.RecordReader
import CompletionCache.Proofs.Json.ReadBack

/-!
# Records read back

A record is written as an object, and its reader takes each member with the reader for its name. So
the text of a record is recovered when every member is recovered by the reader that it meets
(`recovers_object`): under the name of a field this is the reader of the field (`readerOf_field`), and
under any other name that of the remaining members (`readerOf_others`). Where something less is known
of a member, as of a number that may be rounded on its way (`exists_readsAs_ofBinary64`), this much is
still known of what is read in its place (`readsAs_object`).
-/

set_option autoImplicit false

namespace CompletionCache.Json

/-! ## Readers by name -/

section Names

variable {layout : Layout} {inner : List (String × ValueReader)} {name : String}

theorem lookup_map_pair {β : Type} (build : String → β) {names : List String} {name : String}
    (mem : name ∈ names) : (names.map fun name => (name, build name)).lookup name =
      some (build name) := by
  induction names with
  | nil => cases mem
  | cons other names ih =>
    rw [List.map_cons, List.lookup_cons]
    by_cases same : name = other
    · simp [same]
    · rw [beq_false_of_ne same]
      exact ih ((List.mem_cons.1 mem).resolve_left same)

theorem readerOf_field (field : name ∈ layout.names) (others : ValueReader) :
    readerOf (layout.readers inner) others name = readerOf inner readDocument name := by
  rw [readerOf, Layout.readers, lookup_map_pair (readerOf inner readDocument) field]
  rfl

theorem readerOf_others (apart : name ∉ layout.names) (others : ValueReader) :
    readerOf (layout.readers inner) others name = others := by
  have absent : (layout.readers inner).lookup name = none := by
    rw [List.lookup_eq_none_iff]
    intro field mem
    obtain ⟨other, inNames, rfl⟩ := List.mem_map.1 mem
    apply bne_iff_ne.2
    rintro rfl
    exact apart inNames
  rw [readerOf, absent]
  rfl

end Names

/-! ## Objects -/

section Objects

variable {fields : List (String × ValueReader)} {others : ValueReader} {members : Members}

theorem readFields_brace_zero (rest : List Char) :
    readFields fields others 0 ('{' :: rest) = atNext .tooDeep ('{' :: rest) := by
  rw [readFields]
  rfl

theorem readFields_brace (depth : Nat) (rest : List Char) :
    readFields fields others (depth + 1) ('{' :: rest) =
      readMembers (readMember fun name => readerOf fields others name depth)
        (rest.length + 1) true rest >>= fun read => .ok (object read.1, read.2) := by
  rw [readFields]
  rfl

theorem written_object (members : Members) (rest : List Char) :
    written (object members) ++ rest = '{' :: (writtenMembers members ++ '}' :: rest) := by
  simp [written]

/-- What is known of how each member is read is known of the members of the object. -/
theorem readsAs_object {fits : String × Json → Prop} {Holds : String × Json → Json → Prop}
    (depth : Nat) (each : ∀ member ∈ members, ∀ {rest : List Char}, EndsNumber rest →
      ReadsAs (fits member) (Holds member)
        (readerOf fields others member.1 depth (member.2.written ++ rest)) rest)
    (rest : List Char) :
    ReadsAs (∀ member ∈ members, fits member)
      (fun v => ∃ read, v = object read ∧
        List.Forall₂ (fun member read => read.1 = member.1 ∧ Holds member read.2) members read)
      (readFields fields others (depth + 1) (written (object members) ++ rest)) rest := by
  rw [written_object, readFields_brace]
  have read := readsAs_members (fun name => readerOf fields others name depth) members each
    _ (Nat.lt_succ_of_le (length_le_writtenMembers members rest)) true rest
  exact read.map fun read same => ⟨read, rfl, same⟩

/-- Among members that were read in the place of others, the value of a name is the one that was read
in its place. -/
theorem find?_of_forall₂ {Holds : String × Json → Json → Prop} {name : String} {read : Members}
    (same : List.Forall₂ (fun member read => read.1 = member.1 ∧ Holds member read.2) members read)
    {v : Json} (found : find? name members = some v) :
    ∃ w, find? name read = some w ∧ Holds (name, v) w := by
  induction same with
  | nil => cases found
  | @cons member other members read first others ih =>
    obtain ⟨other, w⟩ := other
    obtain ⟨rfl, holds⟩ := first
    rw [find?] at found ⊢
    split_ifs at found ⊢ with here
    · cases found
      subst here
      exact ⟨w, rfl, holds⟩
    · exact ih found

/-- An object is recovered when each of its members is, by the reader for its name. -/
theorem recovers_object
    (recovers : ∀ member ∈ members, Recovers (readerOf fields others member.1) member.2) :
    Recovers (readFields fields others) (object members) := by
  intro depth rest ends
  rw [written_object]
  cases depth with
  | zero =>
    have deep : ¬ nesting (object members) ≤ 0 := by simp [nesting]
    exact .of_error deep (readFields_brace_zero _)
  | succ depth =>
    have fits : (object members).nesting ≤ depth + 1 ↔ nestingMembers members ≤ depth := by
      simp [nesting]
    rw [readFields_brace, fits]
    exact (readsBack_members (readerOf fields others) recovers depth rest).map
      (by rintro _ rfl; rfl)

end Objects

/-! ## Numbers that may be lost -/

/-- A binary64 number is read as something or refused, whatever stands behind it. -/
theorem exists_readsAs_ofBinary64 (round : Binary64.Rounding) (x : Binary64) :
    ∃ fits, ∀ (depth : Nat) {rest : List Char}, EndsNumber rest →
      ReadsAs fits (fun _ => True) (readValue round depth ((ofBinary64 x).written ++ rest)) rest := by
  rw [ofBinary64]
  split_ifs with finite
  · obtain ⟨text, documentText, whole, places, exponent, spells, -⟩ :=
      spellsNearest_documentText finite
    obtain ⟨after, rfl, isWhole, read⟩ := spells
    refine ⟨(round x.isNegative whole places exponent).isFinite = true, ?_⟩
    intro depth rest ends
    obtain ⟨stop, fraction⟩ := read round rest ends
    rw [written, numberText, if_pos finite, documentText, List.append_assoc, List.append_assoc,
      readValue_signText isWhole stop, fraction, decimalNumber]
    split_ifs with inRange
    · exact .of_ok inRange rfl trivial
    · exact .of_error inRange rfl
  -- A number that is not finite is written as null.
  · have recovers : Recovers (readValue round) null :=
      recovers_written null (by simp [Printable, numbers]) (by simp [Lossless, numbers])
    refine ⟨True, fun depth rest ends => ?_⟩
    exact (recovers depth ends).congr (by simp [nesting]) fun _ _ => trivial

end CompletionCache.Json
