import CompletionCache.Proofs.Json.NumberText

/-!
# Documents read back

A printable document is one whose numbers all are, and a lossless one loses none of its binary64
numbers to the rounding of the reader. Reading the text of such a document gives it again and leaves
what stands behind it, unless more containers stand inside one another than the reader takes; then it
is refused (`recovers_written`). Both outcomes are carried through lists and objects together
(`readsBack_items`, `readsAs_members`), whichever readers their parts have. Rounded to the nearest
number nothing is lost, so no two printable documents share a text (`text_injective`).
-/

set_option autoImplicit false

namespace CompletionCache.Json

/-! ## Printable documents -/

mutual

/-- The numbers of a document. -/
def numbers : Json → List Number
  | number value => [value]
  | array items => numbersOfItems items
  | object members => numbersOfMembers members
  | _ => []

/-- The numbers of some items. -/
def numbersOfItems : List Json → List Number
  | [] => []
  | item :: rest => numbers item ++ numbersOfItems rest

/-- The numbers in the values of some members. -/
def numbersOfMembers : List (String × Json) → List Number
  | [] => []
  | (_, value) :: rest => numbers value ++ numbersOfMembers rest

end

/-- A document whose numbers are all determined by their texts. -/
def Printable (v : Json) : Prop := ∀ n ∈ v.numbers, n.Printable

instance (v : Json) : Decidable v.Printable := inferInstanceAs (Decidable (∀ n ∈ v.numbers, _))

/-- A document whose numbers are all read from their texts as themselves. -/
def Lossless (round : Binary64.Rounding) (v : Json) : Prop := ∀ n ∈ v.numbers, n.Lossless round

instance (round : Binary64.Rounding) (v : Json) : Decidable (v.Lossless round) :=
  inferInstanceAs (Decidable (∀ n ∈ v.numbers, _))

/-- Rounded to the nearest number, nothing is lost. -/
theorem Printable.lossless {v : Json} (printable : v.Printable) :
    v.Lossless Binary64.readNearest :=
  fun n mem => lossless_readNearest (printable n mem)

variable {round : Binary64.Rounding}

theorem mem_numbers_array {items : List Json} {n : Number} :
    n ∈ (array items).numbers ↔ ∃ item ∈ items, n ∈ item.numbers := by
  rw [numbers]
  induction items with
  | nil => simp [numbersOfItems]
  | cons item items ih => simp [numbersOfItems, ih]

theorem mem_numbers_object {members : List (String × Json)} {n : Number} :
    n ∈ (object members).numbers ↔ ∃ member ∈ members, n ∈ member.2.numbers := by
  rw [numbers]
  induction members with
  | nil => simp [numbersOfMembers]
  | cons member members ih => simp [numbersOfMembers, ih]

theorem printable_array_iff {items : List Json} :
    (array items).Printable ↔ ∀ item ∈ items, item.Printable := by
  simp only [Printable, mem_numbers_array]
  exact ⟨fun each item mem n inside => each n ⟨item, mem, inside⟩,
    fun each n ⟨item, mem, inside⟩ => each item mem n inside⟩

theorem printable_object_iff {members : Members} :
    (object members).Printable ↔ ∀ member ∈ members, member.2.Printable := by
  simp only [Printable, mem_numbers_object]
  exact ⟨fun each member mem n inside => each n ⟨member, mem, inside⟩,
    fun each n ⟨member, mem, inside⟩ => each member mem n inside⟩

theorem Lossless.of_mem_array {items : List Json} (lossless : (array items).Lossless round)
    {item : Json} (mem : item ∈ items) : item.Lossless round :=
  fun n inside => lossless n (mem_numbers_array.2 ⟨item, mem, inside⟩)

theorem Lossless.of_mem_object {members : Members} (lossless : (object members).Lossless round)
    {member : String × Json} (mem : member ∈ members) : member.2.Lossless round :=
  fun n inside => lossless n (mem_numbers_object.2 ⟨member, mem, inside⟩)

/-! ## Quoted texts -/

theorem number?_digitChar : ∀ n < 32,
    Positional.number? 16 ['0', '0', Nat.digitChar (n / 16), Nat.digitChar (n % 16)] = some n := by
  decide

/-- An escaped character is read as that character. -/
theorem readString_escaped (c : Char) (text read : List Char) :
    readString (escaped c ++ text) 0 read = readString text 0 (c :: read) := by
  rw [escaped]
  split_ifs with quote backslash newline return' tab backspace formFeed control
  · rw [quote]
    rfl
  · rw [backslash]
    rfl
  · rw [newline]
    rfl
  · rw [return']
    rfl
  · rw [tab]
    rfl
  · rw [backspace]
    rfl
  · rw [formFeed]
    rfl
  · have digits := number?_digitChar c.toNat control
    have unit : readEscape ('0' :: '0' :: Nat.digitChar (c.toNat / 16) ::
        Nat.digitChar (c.toNat % 16) :: text) = .ok (c, 4) := by
      have notSurrogate : ¬ (0xDC00 ≤ c.toNat ∧ c.toNat ≤ 0xDFFF) := by omega
      have below : c.toNat < 0xD800 ∨ 0xDBFF < c.toNat := by omega
      simp only [readEscape, fourHexDigits?, digits, if_neg notSurrogate, if_pos below,
        Char.ofNat_toNat]
    simp [readString, unit]
  · simp [readString, control]

theorem readString_flatMap (chars rest read : List Char) :
    readString (chars.flatMap escaped ++ '"' :: rest) 0 read =
      .ok (String.ofList (read.reverse ++ chars), rest) := by
  induction chars generalizing read with
  | nil => simp [readString]
  | cons c chars ih =>
    rw [List.flatMap_cons, List.append_assoc, readString_escaped, ih]
    simp

/-- A quoted text is read as that text, from behind its opening quote. -/
theorem readString_quoted (s : String) (rest : List Char) :
    readString (s.toList.flatMap escaped ++ '"' :: rest) 0 [] = .ok (s, rest) := by
  rw [readString_flatMap]
  simp

/-! ## Outcomes of reading -/

/-- If it `fits`, reading gives something that `Holds` and leaves a rest; if not, it is refused. -/
structure ReadsAs {α : Type} (fits : Prop) (Holds : α → Prop) (result : Except Fault (Parsed α))
    (rest : List Char) : Prop where
  ok : fits → ∃ value, result = .ok (value, rest) ∧ Holds value
  refused : ¬ fits → ∃ fault, result = .error fault

/-- Reading gives a value and leaves a rest when the containers fit, and is refused when they do
not. -/
abbrev ReadsBack {α : Type} (fits : Prop) (result : Except Fault (Parsed α)) (value : α)
    (rest : List Char) : Prop :=
  ReadsAs fits (· = value) result rest

section Outcomes

variable {α β : Type} {fits fits' : Prop} {Holds Holds' : α → Prop}
  {result : Except Fault (Parsed α)} {value : α} {rest : List Char}

theorem ReadsAs.of_ok (always : fits) (ok : result = .ok (value, rest)) (holds : Holds value) :
    ReadsAs fits Holds result rest :=
  ⟨fun _ => ⟨value, ok, holds⟩, fun never => absurd always never⟩

theorem ReadsAs.of_error {fault : Fault} (never : ¬ fits) (error : result = .error fault) :
    ReadsAs fits Holds result rest :=
  ⟨fun fit => absurd fit never, fun _ => ⟨fault, error⟩⟩

theorem ReadsAs.congr (reads : ReadsAs fits Holds result rest) (iff : fits' ↔ fits)
    (imp : ∀ value, Holds value → Holds' value) : ReadsAs fits' Holds' result rest := by
  refine ⟨?_, fun unfit => reads.refused fun fit => unfit (iff.2 fit)⟩
  intro fit
  obtain ⟨value, ok, holds⟩ := reads.ok (iff.1 fit)
  exact ⟨value, ok, imp value holds⟩

/-- Whatever is read satisfies what is known of it. -/
theorem ReadsAs.holds (reads : ReadsAs fits Holds result rest) {rest' : List Char}
    (ok : result = .ok (value, rest')) : Holds value := by
  by_cases fit : fits
  · obtain ⟨read, same, holds⟩ := reads.ok fit
    rw [ok] at same
    cases same
    exact holds
  · obtain ⟨fault, failed⟩ := reads.refused fit
    rw [ok] at failed
    cases failed

theorem ReadsBack.ok (reads : ReadsBack fits result value rest) (fit : fits) :
    result = .ok (value, rest) := by
  obtain ⟨_, ok, rfl⟩ := ReadsAs.ok reads fit
  exact ok

/-- One reading after another fits when both do. -/
theorem ReadsAs.bind {both : Prop} {next : Parsed α → Except Fault (Parsed β)} {Then : β → Prop}
    {rest' : List Char} (first : ReadsAs fits Holds result rest)
    (second : ∀ value, Holds value → ReadsAs fits' Then (next (value, rest)) rest')
    (iff : both ↔ fits ∧ fits') : ReadsAs both Then (result >>= next) rest' := by
  refine ⟨?_, ?_⟩
  · intro fit
    obtain ⟨fitFirst, fitSecond⟩ := iff.1 fit
    obtain ⟨value, ok, holds⟩ := first.ok fitFirst
    rw [ok]
    exact (second value holds).ok fitSecond
  · intro unfit
    by_cases fitFirst : fits
    · obtain ⟨value, ok, holds⟩ := first.ok fitFirst
      rw [ok]
      exact (second value holds).refused fun fitSecond => unfit (iff.2 ⟨fitFirst, fitSecond⟩)
    · obtain ⟨fault, failed⟩ := first.refused fitFirst
      refine ⟨fault, ?_⟩
      rw [failed]
      rfl

/-- What is built from a value is read with it. -/
theorem ReadsAs.map {Built : β → Prop} {build : α → β} (first : ReadsAs fits Holds result rest)
    (built : ∀ value, Holds value → Built (build value)) :
    ReadsAs fits Built (result >>= fun read => .ok (build read.1, read.2)) rest := by
  have next : ∀ value, Holds value → ReadsAs True Built (.ok (build value, rest)) rest :=
    fun value holds => .of_ok trivial rfl (built value holds)
  exact first.bind next (by simp)

end Outcomes

/-! ## Values -/

/-- A character that begins a value: neither blank nor one of the marks between values. -/
structure Opens (c : Char) : Prop where
  visible : isBlank c = false
  notComma : c ≠ ','
  notBracket : c ≠ ']'
  notBrace : c ≠ '}'

theorem opens_of_isDigit {c : Char} (digit : c = '-' ∨ c.isDigit = true) : Opens c := by
  have notDigit : ∀ d : Char, d ≠ '-' → d.isDigit = false → c ≠ d := by
    rintro d notMinus no rfl
    rcases digit with minus | digit
    · exact notMinus minus
    · rw [no] at digit
      cases digit
  refine ⟨?_, notDigit _ (by decide) rfl, notDigit _ (by decide) rfl, notDigit _ (by decide) rfl⟩
  simp only [isBlank, Bool.or_eq_false_iff, beq_eq_false_iff_ne]
  exact ⟨⟨⟨notDigit _ (by decide) rfl, notDigit _ (by decide) rfl⟩, notDigit _ (by decide) rfl⟩,
    notDigit _ (by decide) rfl⟩

theorem written_cons {v : Json} (printable : v.Printable) :
    ∃ first more, v.written = first :: more ∧ Opens first := by
  cases v with
  | null => exact ⟨'n', _, rfl, by decide, by decide, by decide, by decide⟩
  | bool value => cases value <;> exact ⟨_, _, rfl, by decide, by decide, by decide, by decide⟩
  | number n =>
    have mem : n ∈ numbers (number n) := by simp [numbers]
    obtain ⟨negative, text, written, writes⟩ :=
      writes_numberText (printable n mem) (printable.lossless n mem)
    obtain ⟨first, more, cons, digit⟩ := writes.cons
    exact ⟨first, more, written.trans cons, opens_of_isDigit digit⟩
  | string value => exact ⟨'"', _, rfl, by decide, by decide, by decide, by decide⟩
  | array items => exact ⟨'[', _, rfl, by decide, by decide, by decide, by decide⟩
  | object members => exact ⟨'{', _, rfl, by decide, by decide, by decide, by decide⟩

theorem skipBlank_cons {c : Char} (visible : isBlank c = false) (rest : List Char) :
    skipBlank (c :: rest) = c :: rest := by
  rw [skipBlank, List.dropWhile_cons_of_neg]
  rw [visible]
  exact Bool.false_ne_true

/-! ## Items -/

/-- What stands behind an item: nothing, or a comma and the other items. -/
def behindItem : List Json → List Char
  | [] => []
  | item :: rest => ',' :: writtenItems (item :: rest)

theorem writtenItems_cons (item : Json) (rest : List Json) :
    writtenItems (item :: rest) = written item ++ behindItem rest := by
  cases rest with
  | nil => rw [writtenItems, behindItem, List.append_nil]
  | cons next rest => rw [writtenItems, behindItem]

theorem endsNumber_behindItem (items : List Json) (rest : List Char) :
    EndsNumber (behindItem items ++ ']' :: rest) := by
  cases items with
  | nil => exact endsNumber_cons (by simp)
  | cons item items => exact endsNumber_cons (by simp)

/-- Reads an item, and then the others behind it. -/
def readItemAnd (readItem : List Char → Except Fault (Parsed Json)) (fuel : Nat)
    (text : List Char) : Except Fault (Parsed (List Json)) :=
  readItem text >>= fun read =>
    readItems readItem fuel false read.2 >>= fun others => .ok (read.1 :: others.1, others.2)

theorem readItems_first (readItem : List Char → Except Fault (Parsed Json)) (fuel : Nat) {c : Char}
    (opens : Opens c) (text : List Char) :
    readItems readItem (fuel + 1) true (c :: text) = readItemAnd readItem fuel (c :: text) := by
  obtain ⟨visible, notComma, notBracket, -⟩ := opens
  rw [readItems, skipBlank_cons visible]
  simp [notComma, notBracket]
  rfl

theorem readItems_next (readItem : List Char → Except Fault (Parsed Json)) (fuel : Nat) {c : Char}
    (opens : Opens c) (text : List Char) :
    readItems readItem (fuel + 1) false (',' :: c :: text) =
      readItemAnd readItem fuel (c :: text) := by
  obtain ⟨visible, notComma, notBracket, -⟩ := opens
  rw [readItems, skipBlank_cons (by decide)]
  simp [skipBlank_cons visible, notBracket]
  rfl

/-! ## Members -/

/-- What stands behind a member: nothing, or a comma and the other members. -/
def behindMember : List (String × Json) → List Char
  | [] => []
  | member :: rest => ',' :: writtenMembers (member :: rest)

theorem writtenMembers_cons (name : String) (value : Json) (rest : List (String × Json)) :
    writtenMembers ((name, value) :: rest) =
      quoted name ++ ':' :: (written value ++ behindMember rest) := by
  cases rest with
  | nil => rw [writtenMembers, behindMember, List.append_nil]
  | cons next rest => simp [writtenMembers, behindMember]

theorem endsNumber_behindMember (members : List (String × Json)) (rest : List Char) :
    EndsNumber (behindMember members ++ '}' :: rest) := by
  cases members with
  | nil => exact endsNumber_cons (by simp)
  | cons member members => exact endsNumber_cons (by simp)

theorem readMember_quoted (readValue : String → List Char → Except Fault (Parsed Json))
    (name : String) (text : List Char) :
    readMember readValue (quoted name ++ ':' :: text) =
      readValue name text >>= fun read => .ok ((name, read.1), read.2) := by
  have opening : quoted name ++ ':' :: text =
      '"' :: (name.toList.flatMap escaped ++ '"' :: ':' :: text) := by
    simp [quoted]
  rw [opening, readMember, readString_quoted]
  rfl

/-- Reads a member, and then the others behind it. -/
def readMemberAnd (readMember : List Char → Except Fault (Parsed (String × Json))) (fuel : Nat)
    (text : List Char) : Except Fault (Parsed (List (String × Json))) :=
  readMember text >>= fun read =>
    readMembers readMember fuel false read.2 >>= fun others => .ok (read.1 :: others.1, others.2)

theorem readMembers_first (readMember : List Char → Except Fault (Parsed (String × Json)))
    (fuel : Nat) (text : List Char) :
    readMembers readMember (fuel + 1) true ('"' :: text) =
      readMemberAnd readMember fuel ('"' :: text) := by
  rw [readMembers, skipBlank_cons (by decide)]
  rfl

theorem readMembers_next (readMember : List Char → Except Fault (Parsed (String × Json)))
    (fuel : Nat) (text : List Char) :
    readMembers readMember (fuel + 1) false (',' :: '"' :: text) =
      readMemberAnd readMember fuel ('"' :: text) := by
  rw [readMembers, skipBlank_cons (by decide)]
  simp [skipBlank_cons (show isBlank '"' = false by decide)]
  rfl

/-! ## First characters -/

theorem readValue_quote (depth : Nat) (rest : List Char) :
    readValue round depth ('"' :: rest) =
      readString rest 0 [] >>= fun read => .ok (string read.1, read.2) := by
  unfold readValue
  rfl

theorem readValue_bracket_zero (rest : List Char) :
    readValue round 0 ('[' :: rest) = atNext .tooDeep ('[' :: rest) := by
  rw [readValue]
  rfl

theorem readValue_brace_zero (rest : List Char) :
    readValue round 0 ('{' :: rest) = atNext .tooDeep ('{' :: rest) := by
  rw [readValue]
  rfl

theorem readValue_bracket (depth : Nat) (rest : List Char) :
    readValue round (depth + 1) ('[' :: rest) =
      readItems (readValue round depth) (rest.length + 1) true rest >>= fun read =>
        .ok (array read.1, read.2) := by
  rw [readValue]
  rfl

theorem readValue_brace (depth : Nat) (rest : List Char) :
    readValue round (depth + 1) ('{' :: rest) =
      readMembers (readMember fun _ => readValue round depth) (rest.length + 1) true rest >>=
        fun read => .ok (object read.1, read.2) := by
  rw [readValue]
  rfl

theorem readWord_append (value : Json) (word rest : List Char) :
    readWord value word (word ++ rest) = .ok (value, rest) := by
  induction word with
  | nil => rfl
  | cons c word ih => simp [readWord, ih]

/-! ## Lists and objects -/

theorem length_le_behindItem : (items : List Json) → items.length ≤ (behindItem items).length
  | [] => Nat.le_refl 0
  | item :: items => by
    have others := length_le_behindItem items
    rw [behindItem, writtenItems_cons]
    simp only [List.length_cons, List.length_append]
    omega

theorem length_le_writtenItems (items : List Json) (rest : List Char) :
    items.length ≤ (writtenItems items ++ ']' :: rest).length := by
  cases items with
  | nil => exact Nat.zero_le _
  | cons item items =>
    have others := length_le_behindItem items
    rw [writtenItems_cons]
    simp only [List.length_cons, List.length_append]
    omega

theorem length_le_behindMember : (members : List (String × Json)) →
    members.length ≤ (behindMember members).length
  | [] => Nat.le_refl 0
  | (name, value) :: members => by
    have others := length_le_behindMember members
    rw [behindMember, writtenMembers_cons]
    simp only [List.length_cons, List.length_append]
    omega

theorem length_le_writtenMembers (members : List (String × Json)) (rest : List Char) :
    members.length ≤ (writtenMembers members ++ '}' :: rest).length := by
  cases members with
  | nil => exact Nat.zero_le _
  | cons member members =>
    have others := length_le_behindMember members
    rw [writtenMembers_cons]
    simp only [List.length_cons, List.length_append]
    omega

/-- A reader that recovers a document from its text, in front of anything that ends a number, if the
depth has room for its containers; if not, the reader refuses it. -/
def Recovers (reader : ValueReader) (v : Json) : Prop :=
  ∀ (depth : Nat) {rest : List Char}, EndsNumber rest →
    ReadsBack (v.nesting ≤ depth) (reader depth (v.written ++ rest)) v rest

/-- The items of a list are read one after another, each in front of what stands behind it. -/
theorem readsBack_items {reader : ValueReader} (depth : Nat) : (items : List Json) →
    (∀ item ∈ items, item.Printable) → (∀ item ∈ items, Recovers reader item) →
    (fuel : Nat) → items.length < fuel → (isFirst : Bool) → (rest : List Char) →
    ReadsBack (nestingItems items ≤ depth)
      (readItems (reader depth) fuel isFirst
        ((if isFirst then writtenItems items else behindItem items) ++ ']' :: rest)) items rest
  | [], _, _, fuel + 1, _, isFirst, rest => by
    refine .of_ok (Nat.zero_le depth) ?_ rfl
    cases isFirst <;> rfl
  | item :: items, printable, recovers, fuel + 1, enough, isFirst, rest => by
    -- At the front of a list and behind a comma the reader comes to an item in the same way.
    have one : readItems (reader depth) (fuel + 1) isFirst
        ((if isFirst then writtenItems (item :: items) else behindItem (item :: items)) ++
          ']' :: rest) =
        readItemAnd (reader depth) fuel (written item ++ (behindItem items ++ ']' :: rest)) := by
      obtain ⟨first, more, cons, opens⟩ := written_cons (printable item List.mem_cons_self)
      have text : writtenItems (item :: items) ++ ']' :: rest =
          first :: (more ++ (behindItem items ++ ']' :: rest)) := by
        rw [writtenItems_cons, cons, List.append_assoc]
        rfl
      rw [cons, List.cons_append, behindItem]
      cases isFirst with
      | true =>
        rw [if_pos rfl, text]
        exact readItems_first (reader depth) fuel opens _
      | false =>
        rw [if_neg Bool.false_ne_true, List.cons_append, text]
        exact readItems_next (reader depth) fuel opens _
    rw [one]
    -- What stands behind the item ends a number, so the item is read to its end and no further.
    have read := recovers item List.mem_cons_self depth (endsNumber_behindItem items rest)
    have others := readsBack_items depth items (fun item mem => printable item (.tail _ mem))
      (fun item mem => recovers item (.tail _ mem)) fuel (Nat.lt_of_succ_lt_succ enough) false rest
    have both : nestingItems (item :: items) ≤ depth ↔
        item.nesting ≤ depth ∧ nestingItems items ≤ depth := by simp [nestingItems]
    refine read.bind ?_ both
    rintro _ rfl
    exact others.map (by rintro _ rfl; rfl)

/-- The members of an object are read one after another, each in front of what stands behind it. -/
theorem readsAs_members (readValue : String → List Char → Except Fault (Parsed Json))
    {fits : String × Json → Prop} {Holds : String × Json → Json → Prop} :
    (members : List (String × Json)) →
    (∀ member ∈ members, ∀ {rest : List Char}, EndsNumber rest →
      ReadsAs (fits member) (Holds member) (readValue member.1 (member.2.written ++ rest)) rest) →
    (fuel : Nat) → members.length < fuel → (isFirst : Bool) → (rest : List Char) →
    ReadsAs (∀ member ∈ members, fits member)
      (List.Forall₂ (fun member read => read.1 = member.1 ∧ Holds member read.2) members)
      (readMembers (readMember readValue) fuel isFirst
        ((if isFirst then writtenMembers members else behindMember members) ++ '}' :: rest)) rest
  | [], _, fuel + 1, _, isFirst, rest => by
    refine .of_ok (by simp) ?_ .nil
    cases isFirst <;> rfl
  | (name, value) :: members, each, fuel + 1, enough, isFirst, rest => by
    have one : readMembers (readMember readValue) (fuel + 1) isFirst
        ((if isFirst then writtenMembers ((name, value) :: members)
          else behindMember ((name, value) :: members)) ++ '}' :: rest) =
        readMemberAnd (readMember readValue) fuel
          (quoted name ++ ':' :: (written value ++ (behindMember members ++ '}' :: rest))) := by
      have text : writtenMembers ((name, value) :: members) ++ '}' :: rest =
          quoted name ++ ':' :: (written value ++ (behindMember members ++ '}' :: rest)) := by
        rw [writtenMembers_cons, List.append_assoc, List.cons_append, List.append_assoc]
      rw [behindMember]
      cases isFirst with
      | true =>
        rw [if_pos rfl, text]
        exact readMembers_first (readMember readValue) fuel _
      | false =>
        rw [if_neg Bool.false_ne_true, List.cons_append, text]
        exact readMembers_next (readMember readValue) fuel _
    rw [one, readMemberAnd, readMember_quoted]
    have read := each (name, value) List.mem_cons_self (endsNumber_behindMember members rest)
    have others := readsAs_members readValue members (fun member mem => each member (.tail _ mem))
      fuel (Nat.lt_of_succ_lt_succ enough) false rest
    have named : ReadsAs (fits (name, value))
        (fun member => member.1 = name ∧ Holds (name, value) member.2)
        (readValue name (written value ++ (behindMember members ++ '}' :: rest)) >>=
          fun read => .ok ((name, read.1), read.2)) (behindMember members ++ '}' :: rest) :=
      read.map fun _ holds => ⟨rfl, holds⟩
    refine named.bind (fun member holds => ?_) List.forall_mem_cons
    exact others.map fun _ holdOthers => .cons holds holdOthers

theorem nestingMembers_le_iff {members : List (String × Json)} {depth : Nat} :
    nestingMembers members ≤ depth ↔ ∀ member ∈ members, member.2.nesting ≤ depth := by
  induction members with
  | nil => simp [nestingMembers]
  | cons member members ih => simp [nestingMembers, ih]

/-- Members that their readers recover are read back together. -/
theorem readsBack_members (reader : String → ValueReader) {members : List (String × Json)}
    (recovers : ∀ member ∈ members, Recovers (reader member.1) member.2) (depth : Nat)
    (rest : List Char) :
    ReadsBack (nestingMembers members ≤ depth)
      (readMembers (readMember fun name => reader name depth)
        ((writtenMembers members ++ '}' :: rest).length + 1) true
        (writtenMembers members ++ '}' :: rest)) members rest := by
  have read := readsAs_members (fun name => reader name depth) members
    (fun member mem _ ends => recovers member mem depth ends) _
    (Nat.lt_succ_of_le (length_le_writtenMembers members rest)) true rest
  refine read.congr nestingMembers_le_iff ?_
  intro others same
  have eq : List.Forall₂ Eq members others := by
    refine same.imp ?_
    rintro ⟨_, _⟩ ⟨_, _⟩ ⟨rfl, rfl⟩
    rfl
  exact (List.forall₂_eq_eq_eq ▸ eq).symm

/-! ## The whole document -/

mutual

/-- A printable document that loses nothing is recovered from its text. -/
theorem recovers_written : (v : Json) → v.Printable → v.Lossless round →
    Recovers (readValue round) v
  | null, _, _, depth, rest, _ => by
    refine .of_ok (Nat.zero_le depth) ?_ rfl
    unfold readValue
    exact readWord_append null ['u', 'l', 'l'] rest
  | bool true, _, _, depth, rest, _ => by
    refine .of_ok (Nat.zero_le depth) ?_ rfl
    unfold readValue
    exact readWord_append (bool true) ['r', 'u', 'e'] rest
  | bool false, _, _, depth, rest, _ => by
    refine .of_ok (Nat.zero_le depth) ?_ rfl
    unfold readValue
    exact readWord_append (bool false) ['a', 'l', 's', 'e'] rest
  | number n, printable, lossless, depth, rest, ends => by
    have mem : n ∈ numbers (number n) := by simp [numbers]
    obtain ⟨negative, text, numberText, writes⟩ :=
      writes_numberText (printable n mem) (lossless n mem)
    refine .of_ok (Nat.zero_le depth) ?_ rfl
    rw [written, numberText]
    exact writes.readValue ends depth
  | string value, _, _, depth, rest, _ => by
    have text : written (string value) ++ rest =
        '"' :: (value.toList.flatMap escaped ++ '"' :: rest) := by simp [written, quoted]
    rw [text, readValue_quote, readString_quoted]
    exact .of_ok (Nat.zero_le depth) rfl rfl
  -- A list that no level is left for is refused at its bracket, whatever stands behind it.
  | array items, _, _, 0, rest, _ => by
    have deep : ¬ nesting (array items) ≤ 0 := by simp [nesting]
    exact .of_error deep (readValue_bracket_zero _)
  | array items, printable, lossless, depth + 1, rest, _ => by
    have text : written (array items) ++ rest = '[' :: (writtenItems items ++ ']' :: rest) := by
      simp [written]
    have itemsPrintable := printable_array_iff.1 printable
    have recovers := recovers_items items itemsPrintable fun _ => lossless.of_mem_array
    have read := readsBack_items depth items itemsPrintable recovers _
      (Nat.lt_succ_of_le (length_le_writtenItems items rest)) true rest
    have fits : (array items).nesting ≤ depth + 1 ↔ nestingItems items ≤ depth := by
      simp [nesting]
    rw [text, readValue_bracket, fits]
    exact read.map (by rintro _ rfl; rfl)
  | object members, _, _, 0, rest, _ => by
    have deep : ¬ nesting (object members) ≤ 0 := by simp [nesting]
    exact .of_error deep (readValue_brace_zero _)
  | object members, printable, lossless, depth + 1, rest, _ => by
    have text : written (object members) ++ rest =
        '{' :: (writtenMembers members ++ '}' :: rest) := by
      simp [written]
    have recovers := recovers_members members (printable_object_iff.1 printable)
      fun _ => lossless.of_mem_object
    have read := readsBack_members (fun _ => readValue round) recovers depth rest
    have fits : (object members).nesting ≤ depth + 1 ↔ nestingMembers members ≤ depth := by
      simp [nesting]
    rw [text, readValue_brace, fits]
    exact read.map (by rintro _ rfl; rfl)

theorem recovers_items : (items : List Json) → (∀ item ∈ items, item.Printable) →
    (∀ item ∈ items, item.Lossless round) → ∀ item ∈ items, Recovers (readValue round) item
  | [], _, _ => by simp
  | item :: items, printable, lossless => by
    rw [List.forall_mem_cons] at printable lossless ⊢
    exact ⟨recovers_written item printable.1 lossless.1,
      recovers_items items printable.2 lossless.2⟩

theorem recovers_members : (members : List (String × Json)) →
    (∀ member ∈ members, member.2.Printable) → (∀ member ∈ members, member.2.Lossless round) →
    ∀ member ∈ members, Recovers (readValue round) member.2
  | [], _, _ => by simp
  | (_, value) :: members, printable, lossless => by
    rw [List.forall_mem_cons] at printable lossless ⊢
    exact ⟨recovers_written value printable.1 lossless.1,
      recovers_members members printable.2 lossless.2⟩

end

/-! ## Texts of documents -/

/-- No two printable documents share a text. -/
theorem text_injective {v w : Json} (printable : v.Printable) (printable' : w.Printable)
    (same : v.text = w.text) : v = w := by
  have written : v.written = w.written := String.ofList_injective same
  -- Deep enough for both, reading the one text gives both documents.
  have left := (recovers_written v printable printable.lossless (max v.nesting w.nesting)
    endsNumber_nil).ok (Nat.le_max_left _ _)
  have right := (recovers_written w printable' printable'.lossless (max v.nesting w.nesting)
    endsNumber_nil).ok (Nat.le_max_right _ _)
  rw [written, right] at left
  cases left
  rfl

section Whole

variable {reader : ValueReader} {v : Json}

/-- What a whole text is read as satisfies what is known of the reader there. -/
theorem ReadsAs.of_readAll {fits : Prop} {Holds : Json → Prop} {w : Json}
    (reads : ReadsAs fits Holds (reader maxNesting (v.written ++ [])) [])
    (ok : Json.readAll reader v.text.toList = .ok w) : Holds w := by
  rw [text, String.toList_ofList] at ok
  obtain ⟨rest, read⟩ := exists_of_readAll ok
  rw [List.append_nil] at reads
  exact reads.holds read

/-- The text of a document that is recovered is read as that document if it is not too deep. -/
theorem Recovers.readAll (recovers : Recovers reader v) (fits : v.nesting ≤ maxNesting) :
    Json.readAll reader v.text.toList = .ok v := by
  have read := (recovers maxNesting endsNumber_nil).ok fits
  rw [List.append_nil] at read
  rw [text, String.toList_ofList, Json.readAll, read]
  rfl

/-- If it is too deep, the text is refused. -/
theorem Recovers.readAll_of_deep (recovers : Recovers reader v) (deep : maxNesting < v.nesting) :
    ∃ fault, Json.readAll reader v.text.toList = .error fault := by
  obtain ⟨fault, failed⟩ := (recovers maxNesting endsNumber_nil).refused (Nat.not_le.2 deep)
  rw [List.append_nil] at failed
  refine ⟨fault, ?_⟩
  rw [text, String.toList_ofList, Json.readAll, failed]
  rfl

end Whole

end CompletionCache.Json
