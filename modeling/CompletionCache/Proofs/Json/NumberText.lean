import CompletionCache.Json.Reader
import CompletionCache.Proofs.Decimal.Digits

/-!
# Numbers of documents read back

`Json.readNumber` takes digits as far as they go, so a number is read whole when nothing that would
go on with it stands behind it (`EndsNumber`). Under that condition each form of the printer's text
is read as its own digits and exponent, however they are rounded (`readFraction_point`,
`readExponent_signed`, `Spells`). Rounded to the nearest number, the digits of a finite number give
that number (`spellsNearest_documentText`). Another rounding need not do so: a number of which it is
so is `Binary64.Lossless`. The text of every printable number writes that number if it is lossless
(`writes_numberText`).
-/

set_option autoImplicit false

namespace CompletionCache

/-- A number that its text determines: a whole number in range, or a finite binary64 number. -/
def Number.Printable : Number → Prop
  | integer value => leastInteger ≤ value ∧ value ≤ greatestInteger
  | real value => value.isFinite = true

instance : (n : Number) → Decidable n.Printable
  | .integer _ => inferInstanceAs (Decidable (_ ∧ _))
  | .real _ => inferInstanceAs (Decidable (_ = true))

namespace Json

open Positional (decimal)

variable {round : Binary64.Rounding}

/-! ## Runs of digits -/

/-- What stands behind a number does not go on with it. -/
def EndsNumber (rest : List Char) : Prop :=
  ∀ c, rest.head? = some c → c.isDigit = false ∧ c ≠ '.' ∧ c ≠ 'e' ∧ c ≠ 'E'

/-- What stands behind digits does not go on with them. -/
def EndsDigits (rest : List Char) : Prop := ∀ c, rest.head? = some c → c.isDigit = false

theorem EndsNumber.endsDigits {rest : List Char} (ends : EndsNumber rest) : EndsDigits rest :=
  fun c head => (ends c head).1

theorem endsNumber_nil : EndsNumber [] := by
  intro c head
  cases head

theorem endsNumber_cons {c : Char} {rest : List Char}
    (mark : c = ',' ∨ c = ']' ∨ c = '}') : EndsNumber (c :: rest) := by
  intro first head
  cases head
  rcases mark with rfl | rfl | rfl <;> decide

theorem endsDigits_cons {c : Char} {rest : List Char} (mark : c.isDigit = false) :
    EndsDigits (c :: rest) := by
  intro first head
  cases head
  exact mark

theorem digitsOf_append {digits rest : List Char} (all : ∀ c ∈ digits, c.isDigit = true)
    (ends : EndsDigits rest) : digitsOf (digits ++ rest) = (digits, rest) := by
  have stop : rest.takeWhile Char.isDigit = [] ∧ rest.dropWhile Char.isDigit = rest := by
    cases rest with
    | nil => exact ⟨rfl, rfl⟩
    | cons c rest =>
      have notDigit := ends c rfl
      simp [notDigit]
  rw [digitsOf, List.span_eq_takeWhile_dropWhile, List.takeWhile_append_of_pos all,
    List.dropWhile_append_of_pos all, stop.1, stop.2, List.append_nil]

/-! ## Parts of a number -/

theorem decimalNumber_of_finite {negative : Bool} {whole places : List Char} {exponent : Int}
    {x : Binary64} (value : round negative whole places exponent = x) (finite : x.isFinite = true)
    (rest : List Char) :
    decimalNumber round negative whole places exponent rest = .ok (number (.real x), rest) := by
  simp only [decimalNumber, value, finite, if_true]

/-- What is read as a number is what the digits are rounded to. -/
theorem round_of_decimalNumber {negative : Bool} {whole places : List Char} {exponent : Int}
    {x : Binary64} {rest after : List Char}
    (ok : decimalNumber round negative whole places exponent rest = .ok (number (.real x), after)) :
    round negative whole places exponent = x := by
  rw [decimalNumber] at ok
  split_ifs at ok
  · cases ok
    rfl
  · cases ok

theorem exponentOverflow?_eq_none {digits rest : List Char} (ends : EndsDigits rest) (value : Nat)
    (small : Nat.ofDigitChars 10 digits value ≤ 2147483647) :
    exponentOverflow? value (digits ++ rest) = none := by
  induction digits generalizing value with
  | nil =>
    cases rest with
    | nil => rfl
    | cons c rest => simp [exponentOverflow?, ends c rfl]
  | cons c digits ih =>
    -- Further digits never make the value smaller, so no prefix exceeds the limit.
    rw [Nat.ofDigitChars_cons] at small
    have next : 10 * value + (c.toNat - 48) ≤ 2147483647 := by
      refine Nat.le_trans ?_ small
      rw [Nat.ofDigitChars_eq_ofDigitChars_zero]
      exact Nat.le_add_right_of_le (Nat.le_mul_of_pos_left _ (by positivity))
    simp only [List.cons_append, exponentOverflow?]
    split_ifs with digit exceeds
    · omega
    · exact ih _ small
    · rfl

/-- The exponent that follows the letter, as `Digits.scientific` writes it. -/
def exponentText : Int → List Char
  | .ofNat e => '+' :: Nat.toDigits 10 e
  | .negSucc e => '-' :: Nat.toDigits 10 (e + 1)

theorem readExponent_signed {rest : List Char} (ends : EndsDigits rest) (negative : Bool)
    (whole places : List Char) {exponent : Int} (small : exponent.natAbs ≤ 2147483647) :
    readExponent round negative whole places (exponentText exponent ++ rest) =
      decimalNumber round negative whole places exponent rest := by
  -- Behind its sign an exponent is read as digits, and it is small enough not to overflow.
  have unsigned : ∀ n : Nat, n ≤ 2147483647 →
      ∃ c more, Nat.toDigits 10 n ++ rest = c :: more ∧ c.isDigit = true ∧
        digitsOf (c :: more) = (Nat.toDigits 10 n, rest) ∧
          exponentOverflow? 0 (c :: more) = none := by
    intro n bound
    have all : ∀ c ∈ Nat.toDigits 10 n, c.isDigit = true :=
      fun c mem => Positional.isDigit_of_mem_toDigits mem
    cases written : Nat.toDigits 10 n with
    | nil => exact absurd written Nat.toDigits_ne_nil
    | cons c more =>
      refine ⟨c, more ++ rest, rfl, all c (written ▸ List.mem_cons_self), ?_, ?_⟩
      · rw [← List.cons_append, ← written]
        exact digitsOf_append all ends
      · rw [← List.cons_append, ← written]
        apply exponentOverflow?_eq_none ends
        rw [Nat.ofDigitChars_ten_toDigits]
        exact bound
  cases exponent with
  | ofNat e =>
    obtain ⟨c, more, text, digit, read, fits⟩ := unsigned e small
    unfold readExponent
    simp only [exponentText, List.cons_append, text, digit, if_true, read, fits]
    simp
  | negSucc e =>
    obtain ⟨c, more, text, digit, read, fits⟩ := unsigned (e + 1) small
    unfold readExponent
    simp only [exponentText, List.cons_append, text, digit, if_true, read, fits]
    simp [Int.negSucc_eq]

theorem readFraction_point {places rest : List Char} (some : places ≠ [])
    (all : ∀ c ∈ places, c.isDigit = true) (ends : EndsNumber rest) (negative : Bool)
    (whole : List Char) :
    readFraction round negative whole ('.' :: places ++ rest) =
      decimalNumber round negative whole places 0 rest := by
  have isEmpty : places.isEmpty = false := by simpa using some
  unfold readFraction
  simp only [List.cons_append, digitsOf_append all ends.endsDigits, isEmpty]
  cases rest with
  | nil => rfl
  | cons c rest =>
    obtain ⟨-, -, notLower, notUpper⟩ := ends c rfl
    simp [notLower, notUpper]

theorem readFraction_point_exponent {places text : List Char} (some : places ≠ [])
    (all : ∀ c ∈ places, c.isDigit = true) (negative : Bool) (whole : List Char) :
    readFraction round negative whole ('.' :: places ++ 'e' :: text) =
      readExponent round negative whole places text := by
  have isEmpty : places.isEmpty = false := by simpa using some
  unfold readFraction
  simp only [List.cons_append, digitsOf_append all (endsDigits_cons (c := 'e') rfl), isEmpty]
  rfl

/-- A whole number that fits is read as one. -/
theorem readFraction_whole {rest : List Char} (ends : EndsNumber rest) {negative : Bool}
    {whole : List Char} {value : Int}
    (size : value = if negative then -(decimal whole : Int) else decimal whole)
    (positive : negative = true → value ≠ 0) (low : Number.leastInteger ≤ value)
    (high : value ≤ Number.greatestInteger) :
    readFraction round negative whole rest = .ok (number (.integer value), rest) := by
  have plain : ¬ ((negative = true ∧ value = 0) ∨ value < Number.leastInteger ∨
      Number.greatestInteger < value) := by
    rintro (⟨sign, zero⟩ | below | above)
    · exact positive sign zero
    · omega
    · omega
  unfold readFraction
  cases rest with
  | nil => simp only [← size, if_neg plain]
  | cons c rest =>
    obtain ⟨-, notPoint, notLower, notUpper⟩ := ends c rfl
    simp [notPoint, notLower, notUpper, ← size, if_neg plain]

/-! ## Whole parts -/

/-- Digits that may stand in front of the point: some, and no zero in front of others. -/
structure IsWhole (whole : List Char) : Prop where
  nonempty : whole ≠ []
  digits : ∀ c ∈ whole, c.isDigit = true
  zero : whole.head? = some '0' → whole = ['0']

theorem isWhole_zero : IsWhole ['0'] := by
  refine ⟨by simp, ?_, fun _ => rfl⟩
  intro c mem
  rw [List.mem_singleton.1 mem]
  rfl

theorem isWhole_cons {first : Char} {more : List Char} (nonzero : first ≠ '0')
    (digits : ∀ c ∈ first :: more, c.isDigit = true) : IsWhole (first :: more) := by
  refine ⟨by simp, digits, ?_⟩
  intro head
  exact absurd (Option.some.inj head) nonzero

theorem isWhole_toDigits (n : Nat) : IsWhole (Nat.toDigits 10 n) := by
  rcases Nat.eq_zero_or_pos n with rfl | positive
  · rw [Nat.toDigits_zero]
    exact isWhole_zero
  · obtain ⟨first, more, written, nonzero⟩ := Positional.toDigits_of_pos positive
    rw [written]
    exact isWhole_cons nonzero fun c mem =>
      Positional.isDigit_of_mem_toDigits (n := n) (written ▸ mem)

theorem readNumber_whole {whole rest : List Char} (isWhole : IsWhole whole) (ends : EndsDigits rest)
    (negative : Bool) :
    readNumber round negative (whole ++ rest) = readFraction round negative whole rest := by
  cases whole with
  | nil => exact absurd rfl isWhole.nonempty
  | cons first more =>
    by_cases zero : first = '0'
    · have alone := isWhole.zero (congrArg some zero)
      rw [alone]
      cases rest with
      | nil => rfl
      | cons c rest => simp [readNumber, ends c rfl]
    · have digit := isWhole.digits first List.mem_cons_self
      have read : digitsOf (first :: (more ++ rest)) = (first :: more, rest) :=
        digitsOf_append isWhole.digits ends
      unfold readNumber
      simp [digit, read]

/-- A value that begins with a digit is read as a number. -/
theorem readValue_digit {first : Char} (digit : first.isDigit = true) (depth : Nat)
    (rest : List Char) :
    readValue round depth (first :: rest) = readNumber round false (first :: rest) := by
  have visible : skipBlank (first :: rest) = first :: rest := by
    rw [skipBlank, List.dropWhile_cons_of_neg]
    intro blank
    simp only [isBlank, Bool.or_eq_true, beq_iff_eq] at blank
    rcases blank with ((rfl | rfl) | rfl) | rfl <;> exact absurd digit (by decide)
  unfold readValue
  rw [visible]
  split
  case h_1 none => cases none
  case h_9 same =>
    cases same
    rw [if_pos digit]
  all_goals
    rename_i same
    cases same
    exact absurd digit (by decide)

/-! ## Texts of numbers -/

/-- The sign in front of a number. -/
def signText (negative : Bool) : List Char := if negative then ['-'] else []

/-- Behind its sign a number is read by its whole part and then by what follows this. -/
theorem readValue_signText {whole rest : List Char} (isWhole : IsWhole whole)
    (stop : EndsDigits rest) (negative : Bool) (depth : Nat) :
    readValue round depth (signText negative ++ (whole ++ rest)) =
      readFraction round negative whole rest := by
  rw [← readNumber_whole isWhole stop negative]
  cases negative with
  | true =>
    unfold readValue
    simp [signText, skipBlank, isBlank]
  | false =>
    cases whole with
    | nil => exact absurd rfl isWhole.nonempty
    | cons first more =>
      exact readValue_digit (isWhole.digits first List.mem_cons_self) depth (more ++ rest)

/-- A text that is read as a number behind its sign: a whole part, and then what `readFraction`
takes to the end of the number. -/
def Writes (round : Binary64.Rounding) (text : List Char) (negative : Bool) (n : Number) : Prop :=
  ∃ whole after, text = whole ++ after ∧ IsWhole whole ∧
    ∀ rest, EndsNumber rest → EndsDigits (after ++ rest) ∧
      readFraction round negative whole (after ++ rest) = .ok (number n, rest)

theorem Writes.readValue {text : List Char} {negative : Bool} {n : Number}
    (writes : Writes round text negative n) {rest : List Char} (ends : EndsNumber rest)
    (depth : Nat) :
    readValue round depth (signText negative ++ text ++ rest) = .ok (number n, rest) := by
  obtain ⟨whole, after, rfl, isWhole, read⟩ := writes
  obtain ⟨stop, fraction⟩ := read rest ends
  rw [List.append_assoc, List.append_assoc, readValue_signText isWhole stop, fraction]

/-- A number begins with its sign or with a digit. -/
theorem Writes.cons {text : List Char} {negative : Bool} {n : Number}
    (writes : Writes round text negative n) :
    ∃ first more, signText negative ++ text = first :: more ∧
      (first = '-' ∨ first.isDigit = true) := by
  obtain ⟨whole, after, rfl, isWhole, -⟩ := writes
  cases negative with
  | true => exact ⟨'-', whole ++ after, rfl, .inl rfl⟩
  | false =>
    cases whole with
    | nil => exact absurd rfl isWhole.nonempty
    | cons first more =>
      exact ⟨first, more ++ after, rfl, .inr (isWhole.digits first List.mem_cons_self)⟩

/-- The digits of a whole number in range write it. -/
theorem writes_toDigits {n : Int} (low : Number.leastInteger ≤ n)
    (high : n ≤ Number.greatestInteger) :
    Writes round (Nat.toDigits 10 n.natAbs) (decide (n < 0)) (.integer n) := by
  refine ⟨_, [], (List.append_nil _).symm, isWhole_toDigits n.natAbs, ?_⟩
  intro rest ends
  refine ⟨ends.endsDigits, readFraction_whole ends ?_ ?_ low high⟩
  · rw [Positional.decimal_toDigits]
    split_ifs with negative <;> simp at negative <;> omega
  · intro negative
    simp at negative
    omega

/-! ## Texts of binary64 numbers -/

/-- What a whole text is read as stands in front of what the reader leaves. -/
theorem exists_of_readAll {reader : ValueReader} {text : List Char} {v : Json}
    (ok : readAll reader text = .ok v) : ∃ rest, reader maxNesting text = .ok (v, rest) := by
  rw [readAll] at ok
  cases outcome : reader maxNesting text with
  | error fault =>
    rw [outcome] at ok
    cases ok
  | ok parsed =>
    obtain ⟨value, rest⟩ := parsed
    rw [outcome] at ok
    -- Behind the value nothing may stand but blank space.
    dsimp only [bind, Except.bind] at ok
    split at ok
    · cases ok
      exact ⟨rest, rfl⟩
    · cases ok

/-- A text that is read behind its sign as digits with an exponent, whatever they are rounded to. -/
def Spells (text : List Char) (negative : Bool) (whole places : List Char) (exponent : Int) : Prop :=
  ∃ after, text = whole ++ after ∧ IsWhole whole ∧
    ∀ round rest, EndsNumber rest → EndsDigits (after ++ rest) ∧
      readFraction round negative whole (after ++ rest) =
        decimalNumber round negative whole places exponent rest

section Spells

variable {text whole places : List Char} {negative : Bool} {exponent : Int} {x : Binary64}

/-- A text writes the number that its digits are rounded to. -/
theorem Spells.writes (spells : Spells text negative whole places exponent)
    (value : round negative whole places exponent = x) (finite : x.isFinite = true) :
    Writes round text negative (.real x) := by
  obtain ⟨after, rfl, isWhole, read⟩ := spells
  refine ⟨whole, after, rfl, isWhole, ?_⟩
  intro rest ends
  obtain ⟨stop, fraction⟩ := read round rest ends
  exact ⟨stop, fraction.trans (decimalNumber_of_finite value finite rest)⟩

/-- The digits of a text are rounded to the number that is read from it. -/
theorem Spells.round_eq (spells : Spells text negative whole places exponent)
    (read : readAll (readValue round) (signText negative ++ text) = .ok (number (.real x))) :
    round negative whole places exponent = x := by
  obtain ⟨after, rfl, isWhole, fraction⟩ := spells
  obtain ⟨stop, decimals⟩ := fraction round [] endsNumber_nil
  rw [List.append_nil] at stop decimals
  obtain ⟨rest, outcome⟩ := exists_of_readAll read
  rw [readValue_signText isWhole stop, decimals] at outcome
  exact round_of_decimalNumber outcome

/-- A point between digits is read as such. -/
theorem spells_point (isWhole : IsWhole whole) (some : places ≠ [])
    (all : ∀ c ∈ places, c.isDigit = true) (negative : Bool) :
    Spells (whole ++ '.' :: places) negative whole places 0 := by
  refine ⟨'.' :: places, rfl, isWhole, ?_⟩
  intro round rest ends
  exact ⟨endsDigits_cons rfl, readFraction_point some all ends negative whole⟩

end Spells

/-- A text whose digits are those of a number: this is the nearest one to what they write. -/
def SpellsNearest (text : List Char) (x : Binary64) : Prop :=
  ∃ whole places exponent, Spells text x.isNegative whole places exponent ∧
    Binary64.readNearest x.isNegative whole places exponent = x

theorem ofDecimal_zeros_behind (negative : Bool) (digits : List Char) (zeros : Nat)
    (exponent : Int) :
    Binary64.ofDecimal negative (decimal (digits ++ List.replicate zeros '0')) exponent =
      Binary64.ofDecimal negative (decimal digits) (exponent + zeros) := by
  rw [Positional.decimal_append, Positional.decimal_zeros, List.length_replicate, Nat.add_zero,
    Binary64.ofDecimal_mul_pow]

theorem decimal_zeros_before (zeros : Nat) (digits : List Char) :
    decimal (List.replicate zeros '0' ++ digits) = decimal digits := by
  rw [Positional.decimal_append, Positional.decimal_zeros, Nat.zero_mul, Nat.zero_add]

theorem isDigit_of_mem_replicate {zeros : Nat} {c : Char} (mem : c ∈ List.replicate zeros '0') :
    c.isDigit = true := by
  rw [List.eq_of_mem_replicate mem]
  rfl

theorem ne_nil_of_length_eq_succ {places : List Char} {e : Nat} (length : places.length = e + 1) :
    places ≠ [] := by
  intro none
  rw [none] at length
  cases length

section Real

variable {x : Binary64}

section Positional

variable {digits : List Char} {e : Nat} (all : ∀ c ∈ digits, c.isDigit = true)

include all

/-- Digits with zeros behind them and a point at the end. -/
theorem spellsNearest_zerosBehind {first : Char} {more : List Char} (cons : digits = first :: more)
    (leading : first ≠ '0')
    (value : Binary64.ofDecimal x.isNegative (decimal digits) (Int.ofNat e) = x) :
    SpellsNearest (digits ++ List.replicate e '0' ++ ['.', '0']) x := by
  have isWhole : IsWhole (digits ++ List.replicate e '0') := by
    rw [cons, List.cons_append]
    apply isWhole_cons leading
    intro c mem
    rw [← List.cons_append, ← cons] at mem
    rcases List.mem_append.1 mem with digit | zero
    · exact all c digit
    · exact isDigit_of_mem_replicate zero
  refine ⟨_, ['0'], 0, spells_point isWhole (by simp) isWhole_zero.digits _, ?_⟩
  -- The zero behind the point counts as one more zero behind the digits.
  have exponent : 0 - (['0'].length : Int) + ((e + 1 : Nat) : Int) = Int.ofNat e := by simp
  rw [Binary64.readNearest, List.append_assoc, ← List.replicate_succ', ofDecimal_zeros_behind,
    exponent]
  exact value

/-- Digits with a point between two of them. -/
theorem spellsNearest_pointInside {first : Char} {more : List Char} (cons : digits = first :: more)
    (leading : first ≠ '0') (inside : e + 1 < digits.length)
    (value : Binary64.ofDecimal x.isNegative (decimal digits) (Int.negSucc e) = x) :
    SpellsNearest (digits.take (digits.length - (e + 1)) ++
      '.' :: digits.drop (digits.length - (e + 1))) x := by
  have split := List.take_append_drop (digits.length - (e + 1)) digits
  have allFront : ∀ c ∈ digits.take (digits.length - (e + 1)), c.isDigit = true :=
    fun c mem => all c (List.mem_of_mem_take mem)
  have allBack : ∀ c ∈ digits.drop (digits.length - (e + 1)), c.isDigit = true :=
    fun c mem => all c (List.mem_of_mem_drop mem)
  have places : (digits.drop (digits.length - (e + 1))).length = e + 1 := by
    rw [List.length_drop]
    omega
  -- At least one digit stands in front of the point, and the first one is no zero.
  have isWhole : IsWhole (digits.take (digits.length - (e + 1))) := by
    obtain ⟨k, shift⟩ : ∃ k, digits.length - (e + 1) = k + 1 :=
      ⟨digits.length - (e + 1) - 1, by omega⟩
    rw [shift, cons] at allFront ⊢
    exact isWhole_cons leading allFront
  refine ⟨_, _, 0, spells_point isWhole (ne_nil_of_length_eq_succ places) allBack _, ?_⟩
  rw [Binary64.readNearest, split, places, Int.zero_sub]
  exact value

/-- All digits behind the point, with zeros between. -/
theorem spellsNearest_zerosBefore (outside : ¬ e + 1 < digits.length)
    (value : Binary64.ofDecimal x.isNegative (decimal digits) (Int.negSucc e) = x) :
    SpellsNearest ('0' :: '.' :: List.replicate (e + 1 - digits.length) '0' ++ digits) x := by
  have places : (List.replicate (e + 1 - digits.length) '0' ++ digits).length = e + 1 := by
    rw [List.length_append, List.length_replicate]
    omega
  have allBack : ∀ c ∈ List.replicate (e + 1 - digits.length) '0' ++ digits,
      c.isDigit = true := by
    intro c mem
    rcases List.mem_append.1 mem with zero | digit
    · exact isDigit_of_mem_replicate zero
    · exact all c digit
  refine ⟨['0'], _, 0, spells_point isWhole_zero (ne_nil_of_length_eq_succ places) allBack _, ?_⟩
  -- Neither the zero in front of the point nor those behind it add to the digits.
  have zeros := decimal_zeros_before 1 (List.replicate (e + 1 - digits.length) '0' ++ digits)
  rw [List.replicate_one] at zeros
  rw [Binary64.readNearest, zeros, decimal_zeros_before, places, Int.zero_sub]
  exact value

end Positional

/-- The positional text of a number has its digits. -/
theorem spellsNearest_positional (finite : x.isFinite = true) (nonzero : x.magnitude ≠ 0) :
    SpellsNearest (x.digits.positional ['.', '0']) x := by
  obtain ⟨first, more, cons, leading⟩ := Binary64.digits_cons finite nonzero
  have all : ∀ c ∈ x.digits.digits, c.isDigit = true :=
    fun c mem => Binary64.isDigit_of_mem_digits mem
  have value := Binary64.ofDecimal_digits finite
  rw [Binary64.Digits.positional]
  cases power : x.digits.exponent with
  | ofNat e =>
    rw [power] at value
    exact spellsNearest_zerosBehind all cons leading value
  | negSucc e =>
    rw [power] at value
    dsimp only
    split_ifs with inside
    · exact spellsNearest_pointInside all cons leading inside value
    · exact spellsNearest_zerosBefore all inside value

theorem scientific_eq (d : Binary64.Digits) :
    d.scientific = (match d.digits with
      | first :: second :: rest => first :: '.' :: second :: rest
      | short => short) ++ 'e' :: exponentText d.leading := by
  rw [Binary64.Digits.scientific]
  cases d.leading <;> rfl

/-- The scientific text of a number has its digits. -/
theorem spellsNearest_scientific (finite : x.isFinite = true) (nonzero : x.magnitude ≠ 0) :
    SpellsNearest x.digits.scientific x := by
  obtain ⟨first, more, cons, leading⟩ := Binary64.digits_cons finite nonzero
  have all : ∀ c ∈ x.digits.digits, c.isDigit = true :=
    fun c mem => Binary64.isDigit_of_mem_digits mem
  have value := Binary64.ofDecimal_digits finite
  obtain ⟨low, high⟩ := Binary64.leading_bounds finite nonzero
  have small : x.digits.leading.natAbs ≤ 2147483647 := by omega
  -- The digits behind the point lower the exponent of the first digit to that of the last.
  have power : x.digits.leading - (more.length : Int) = x.digits.exponent := by
    rw [Binary64.Digits.leading, cons, List.length_cons]
    omega
  rw [cons] at value all
  have isWhole : IsWhole [first] := by
    apply isWhole_cons leading
    intro c mem
    rw [List.mem_singleton.1 mem]
    exact all first List.mem_cons_self
  have nearest : Binary64.readNearest x.isNegative [first] more x.digits.leading = x := by
    rw [Binary64.readNearest, power]
    exact value
  rw [scientific_eq, cons]
  refine ⟨[first], more, x.digits.leading, ?_, nearest⟩
  generalize x.digits.leading = e at small ⊢
  cases more with
  | nil =>
    refine ⟨'e' :: exponentText e, rfl, isWhole, ?_⟩
    intro round rest ends
    refine ⟨endsDigits_cons rfl, ?_⟩
    rw [List.cons_append, readFraction, readExponent_signed ends.endsDigits _ _ _ small]
  | cons second more =>
    refine ⟨'.' :: (second :: more) ++ 'e' :: exponentText e, rfl, isWhole, ?_⟩
    intro round rest ends
    refine ⟨endsDigits_cons rfl, ?_⟩
    have text : '.' :: (second :: more) ++ 'e' :: exponentText e ++ rest =
        '.' :: (second :: more) ++ 'e' :: (exponentText e ++ rest) := List.append_assoc _ _ _
    rw [text,
      readFraction_point_exponent (by simp) (fun c mem => all c (List.mem_cons_of_mem _ mem)),
      readExponent_signed ends.endsDigits _ _ _ small]

/-- The text of a finite number is its sign and its digits. -/
theorem spellsNearest_documentText (finite : x.isFinite = true) :
    ∃ text, x.documentText = signText x.isNegative ++ text ∧ SpellsNearest text x := by
  have signed : ∀ text : List Char, x.signed text = signText x.isNegative ++ text := by
    intro text
    rw [Binary64.signed, signText]
    split_ifs <;> rfl
  rw [Binary64.documentText]
  by_cases zero : x.magnitude = 0
  · rw [if_pos zero, signed]
    refine ⟨['0', '.', '0'], rfl, ['0'], ['0'], 0, ?_, ?_⟩
    · exact spells_point isWhole_zero (by simp) isWhole_zero.digits _
    · apply Binary64.ofDecimal_eq_of_magnitude
      rw [zero]
      exact Binary64.magnitude_ofDecimal_zero false _
  · rw [if_neg zero, signed]
    split_ifs with short
    · exact ⟨_, rfl, spellsNearest_positional finite zero⟩
    · exact ⟨_, rfl, spellsNearest_scientific finite zero⟩

end Real

end Json

/-! ## Numbers that their texts give back -/

/-- The text of a binary64 number is read as that number. -/
def Binary64.Lossless (round : Rounding) (x : Binary64) : Prop :=
  Json.readAll (Json.readValue round) x.documentText = .ok (.number (.real x))

instance (round : Binary64.Rounding) (x : Binary64) : Decidable (x.Lossless round) :=
  decidable_of_iff ((Json.readAll (Json.readValue round) x.documentText).toOption =
    some (.number (.real x))) <| by
      rw [Binary64.Lossless]
      cases Json.readAll (Json.readValue round) x.documentText <;> simp [Except.toOption]

/-- A number that loses nothing on its way through a text; an integer never does. -/
def Number.Lossless (round : Binary64.Rounding) : Number → Prop
  | integer _ => True
  | real x => x.Lossless round

instance (round : Binary64.Rounding) : (n : Number) → Decidable (n.Lossless round)
  | .integer _ => inferInstanceAs (Decidable True)
  | .real x => inferInstanceAs (Decidable (x.Lossless round))

namespace Json

variable {round : Binary64.Rounding}

/-- The text of a lossless number writes it. -/
theorem writes_documentText {x : Binary64} (finite : x.isFinite = true)
    (lossless : x.Lossless round) :
    ∃ text, x.documentText = signText x.isNegative ++ text ∧
      Writes round text x.isNegative (.real x) := by
  obtain ⟨text, written, whole, places, exponent, spells, -⟩ := spellsNearest_documentText finite
  rw [Binary64.Lossless, written] at lossless
  exact ⟨text, written, spells.writes (spells.round_eq lossless) finite⟩

/-- The text of a printable number is a sign and a text that writes it. -/
theorem writes_numberText {n : Number} (printable : n.Printable)
    (lossless : n.Lossless round) :
    ∃ negative text, numberText n = signText negative ++ text ∧ Writes round text negative n := by
  cases n with
  | integer value =>
    refine ⟨decide (value < 0), Nat.toDigits 10 value.natAbs, ?_,
      writes_toDigits printable.1 printable.2⟩
    rw [numberText, integerText]
    split_ifs with negative <;> simp [signText, negative]
  | real value =>
    have finite : value.isFinite = true := printable
    obtain ⟨text, written, writes⟩ := writes_documentText finite lossless
    refine ⟨value.isNegative, text, ?_, writes⟩
    rw [numberText, if_pos finite]
    exact written

/-- Rounded to the nearest number, every finite number is lossless. -/
theorem lossless_readNearest {n : Number} (printable : n.Printable) :
    n.Lossless Binary64.readNearest := by
  cases n with
  | integer value => trivial
  | real x =>
    have finite : x.isFinite = true := printable
    obtain ⟨text, written, whole, places, exponent, spells, nearest⟩ :=
      spellsNearest_documentText finite
    have read := (spells.writes nearest finite).readValue endsNumber_nil maxNesting
    rw [List.append_nil] at read
    rw [Number.Lossless, Binary64.Lossless, written, readAll, read]
    rfl

/-- Scaled by powers of ten, a number may be lost to its neighbour. -/
example : ¬ (Binary64.readNearest false ['3', '1'] "245270191439438".toList 0).Lossless
    Binary64.readScaled := by
  decide +kernel

end Json

end CompletionCache
