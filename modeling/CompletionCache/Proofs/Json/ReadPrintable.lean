import CompletionCache.Proofs.Json.Record

/-!
# What is read is printable

A text has no way to write a number that its own text would not determine: a whole number out of
range is read as a binary64 number, and a number beyond the largest finite one is refused. So every
document that is read is printable (`printable_of_read`), and its normal form is well-formed
(`wellFormed_of_read`).
-/

set_option autoImplicit false

namespace CompletionCache.Json

variable {α β : Type} {round : Binary64.Rounding}

/-- What is read, if anything is, satisfies a condition. -/
def Reads (Holds : α → Prop) (outcome : Except Fault (Parsed α)) : Prop :=
  ∀ value rest, outcome = .ok (value, rest) → Holds value

theorem reads_error {Holds : α → Prop} (fault : Fault) : Reads Holds (.error fault) := by
  intro value rest ok
  cases ok

theorem reads_ok {Holds : α → Prop} {value : α} (holds : Holds value) (rest : List Char) :
    Reads Holds (.ok (value, rest)) := by
  intro same after ok
  cases ok
  exact holds

theorem Reads.bind {First : α → Prop} {Holds : β → Prop} {outcome : Except Fault (Parsed α)}
    {next : Parsed α → Except Fault (Parsed β)} (first : Reads First outcome)
    (others : ∀ value rest, First value → Reads Holds (next (value, rest))) :
    Reads Holds (outcome >>= next) := by
  cases outcome with
  | error fault => exact reads_error fault
  | ok parsed =>
    obtain ⟨value, rest⟩ := parsed
    exact others value rest (first value rest rfl)

/-! ## Numbers -/

theorem printable_real {x : Binary64} (finite : x.isFinite = true) :
    (number (.real x)).Printable := by
  intro n mem
  rw [List.mem_singleton.1 mem]
  exact finite

theorem reads_decimalNumber (negative : Bool) (whole places : List Char) (exponent : Int)
    (rest : List Char) :
    Reads Printable (decimalNumber round negative whole places exponent rest) := by
  rw [decimalNumber]
  split
  · next finite => exact reads_ok (printable_real finite) rest
  · exact reads_error _

theorem isFinite_zero (negative : Bool) : (Binary64.ofMagnitude negative 0).isFinite = true := by
  cases negative with
  | false => decide
  | true => decide

theorem reads_readExponent (negative : Bool) (whole places text : List Char) :
    Reads Printable (readExponent round negative whole places text) := by
  unfold readExponent
  split
  next below unsigned sign =>
  split
  · exact reads_error _
  · split
    · dsimp only
      split
      · split
        · exact reads_error _
        -- Zero keeps its value under any exponent, and a deep one leaves nothing of other digits.
        · exact reads_ok (printable_real (isFinite_zero negative)) _
      · exact reads_decimalNumber _ _ _ _ _
    · exact reads_error _

theorem reads_readFraction (negative : Bool) (whole text : List Char) :
    Reads Printable (readFraction round negative whole text) := by
  unfold readFraction
  split
  · dsimp only
    split
    · split
      · exact reads_error _
      · exact reads_error _
    · split
      · exact reads_readExponent _ _ _ _
      · exact reads_readExponent _ _ _ _
      · exact reads_decimalNumber _ _ _ _ _
  · exact reads_readExponent _ _ _ _
  · exact reads_readExponent _ _ _ _
  · dsimp only
    generalize (if negative then -(Positional.decimal whole : Int) else Positional.decimal whole) =
      value
    split
    · exact reads_decimalNumber _ _ _ _ _
    · next inRange =>
      -- A whole number is kept as one only when it has passed the test of its range.
      rw [not_or, not_or, Int.not_lt, Int.not_lt] at inRange
      refine reads_ok ?_ _
      intro n mem
      rw [List.mem_singleton.1 mem]
      exact inRange.2

theorem reads_readNumber (negative : Bool) (text : List Char) :
    Reads Printable (readNumber round negative text) := by
  unfold readNumber
  split
  · exact reads_error _
  · split
    · exact reads_error _
    · exact reads_readFraction _ _ _
  · split
    · exact reads_readFraction _ _ _
    · exact reads_error _

/-! ## Values -/

theorem reads_readWord {value : Json} (printable : value.Printable) (word text : List Char) :
    Reads Printable (readWord value word text) := by
  induction word generalizing text with
  | nil => exact reads_ok printable text
  | cons expected word ih =>
    cases text with
    | nil => exact reads_error _
    | cons c rest =>
      rw [readWord]
      split
      · exact ih rest
      · exact reads_error _

/-- A list is read as its first element and then the others. -/
theorem reads_cons {Holds : α → Prop} {first : Except Fault (Parsed α)}
    {others : List Char → Except Fault (Parsed (List α))} (one : Reads Holds first)
    (more : ∀ rest, Reads (fun values => ∀ value ∈ values, Holds value) (others rest)) :
    Reads (fun values => ∀ value ∈ values, Holds value) (first >>= fun value =>
      others value.2 >>= fun values => pure (value.1 :: values.1, values.2)) := by
  refine one.bind fun value rest holds => (more rest).bind fun values rest all => ?_
  refine reads_ok ?_ rest
  exact List.forall_mem_cons.2 ⟨holds, all⟩

theorem reads_readItems {readItem : List Char → Except Fault (Parsed Json)}
    (each : ∀ text, Reads Printable (readItem text)) (fuel : Nat) (isFirst : Bool)
    (text : List Char) :
    Reads (fun items => ∀ item ∈ items, item.Printable) (readItems readItem fuel isFirst text) := by
  induction fuel generalizing isFirst text with
  | zero => exact reads_error _
  | succ fuel ih =>
    have one := fun text => reads_cons (each text) (ih false)
    unfold readItems
    dsimp only
    split
    · exact reads_error _
    · exact reads_ok (by simp) _
    · split
      · exact one _
      · split
        · exact reads_error _
        · exact reads_error _
        · exact one _
    · split
      · exact one _
      · exact reads_error _

theorem reads_readMember {readValue : String → List Char → Except Fault (Parsed Json)}
    (each : ∀ name text, Reads Printable (readValue name text)) (text : List Char) :
    Reads (fun member => member.2.Printable) (readMember readValue text) := by
  have named : ∀ text, Reads (fun _ => True) (readString text 0 []) := fun _ _ _ _ => trivial
  unfold readMember
  split
  · refine (named _).bind fun name rest _ => ?_
    dsimp only
    split
    · exact reads_error _
    · refine (each _ _).bind fun value rest printable => ?_
      refine reads_ok ?_ rest
      exact printable
    · exact reads_error _
  · exact reads_error _

theorem reads_readMembers {readMember : List Char → Except Fault (Parsed (String × Json))}
    (each : ∀ text, Reads (fun member => member.2.Printable) (readMember text)) (fuel : Nat)
    (isFirst : Bool) (text : List Char) :
    Reads (fun members => ∀ member ∈ members, member.2.Printable)
      (readMembers readMember fuel isFirst text) := by
  induction fuel generalizing isFirst text with
  | zero => exact reads_error _
  | succ fuel ih =>
    have one := fun text => reads_cons (each text) (ih false)
    unfold readMembers
    dsimp only
    split
    · exact reads_error _
    · exact reads_ok (by simp) _
    · split
      · exact one _
      · split
        · exact reads_error _
        · exact reads_error _
        · exact one _
    · split
      · exact one _
      · exact reads_error _

/-- A value is printable when the values inside it are. -/
theorem reads_readValue_of_inner {depth : Nat} (text : List Char)
    (inner : ∀ below, depth = below + 1 → ∀ text, Reads Printable (readValue round below text)) :
    Reads Printable (readValue round depth text) := by
  -- Words and strings hold no number, so nothing is asked of them.
  have word : ∀ {value : Json}, value.numbers = [] → value.Printable := by
    intro value none n mem
    rw [none] at mem
    cases mem
  unfold readValue
  split
  · exact reads_error _
  · exact reads_readWord (word rfl) _ _
  · exact reads_readWord (word rfl) _ _
  · exact reads_readWord (word rfl) _ _
  · exact reads_readNumber _ _
  · have read : ∀ text, Reads (fun _ => True) (readString text 0 []) := fun _ _ _ _ => trivial
    exact (read _).bind fun value rest _ => reads_ok (word rfl) rest
  · split
    · exact reads_error _
    · next below =>
      refine (reads_readItems (inner below rfl) _ _ _).bind fun items rest printable => ?_
      exact reads_ok (printable_array_iff.2 printable) rest
  · split
    · exact reads_error _
    · next below =>
      have member := reads_readMember fun _ => inner below rfl
      refine (reads_readMembers member _ _ _).bind fun members rest printable => ?_
      exact reads_ok (printable_object_iff.2 printable) rest
  · split
    · exact reads_readNumber _ _
    · exact reads_error _

theorem reads_readValue (depth : Nat) (text : List Char) :
    Reads Printable (readValue round depth text) := by
  induction depth generalizing text with
  | zero => exact reads_readValue_of_inner text nofun
  | succ depth ih =>
    apply reads_readValue_of_inner
    intro below same
    cases same
    exact ih

/-! ## Texts -/

/-- Every document that is read from a text is printable. -/
theorem printable_of_read {text : String} {v : Json} (ok : Json.read text = .ok v) :
    v.Printable := by
  rw [Json.read] at ok
  cases outcome : readAll readDocument text.toList with
  | error fault =>
    rw [outcome] at ok
    cases ok
  | ok value =>
    rw [outcome] at ok
    cases ok
    obtain ⟨rest, parsed⟩ := exists_of_readAll outcome
    exact reads_readValue maxNesting text.toList _ rest parsed

/-- What is kept of a text that is read, with members in order and repeated names resolved, is
well-formed. -/
theorem wellFormed_of_read {text : String} {v : Json} (ok : Json.read text = .ok v) :
    v.normalize.WellFormed :=
  wellFormed_normalize (printable_of_read ok)

end CompletionCache.Json
