import CompletionCache.Store.Glob
import Mathlib.Data.List.Infix

/-!
# What patterns match

`Glob.Matches` states the rules of patterns, one for each way in which a pattern can begin, and the
matcher follows them on every pattern and text (`Glob.isMatch_iff_matches`). The pattern that is made
of a text matches exactly what begins with the text (`Glob.matches_escape_iff`), whatever characters
the text has: what has a meaning in a pattern is escaped, and nothing else is.

A store compares bytes. UTF-8 writes the characters with a meaning as themselves and no others with
their bytes, so escaping does the same to the bytes of a text (`Glob.escape_asBytes`), and a text
begins with another one when its bytes do (`Glob.asBytes_prefix_iff`).
-/

set_option autoImplicit false

namespace CompletionCache.Glob

/-! ## The rules of patterns -/

/-- Which texts a pattern matches, by what the pattern begins with. -/
inductive Matches : List Char → List Char → Prop where
  /-- The empty pattern matches the empty text. -/
  | nothing : Matches [] []
  /-- A star matches any text. -/
  | anyText {rest behind text : List Char} (ending : behind <:+ text) (more : Matches rest behind) :
    Matches ('*' :: rest) text
  /-- A question mark matches any character. -/
  | anyChar {rest behind : List Char} (c : Char) (more : Matches rest behind) :
    Matches ('?' :: rest) (c :: behind)
  /-- A class behind a caret matches a character that lies in none of its ranges. -/
  | noneOf {body behind : List Char} {c : Char}
    (outside : (classRanges body).1.any (Range.contains · c) = false)
    (more : Matches (classRanges body).2 behind) : Matches ('[' :: '^' :: body) (c :: behind)
  /-- Any other class matches a character that lies in one of its ranges. -/
  | oneOf {body behind : List Char} {c : Char} (plain : ∀ rest, body ≠ '^' :: rest)
    (inside : (classRanges body).1.any (Range.contains · c) = true)
    (more : Matches (classRanges body).2 behind) : Matches ('[' :: body) (c :: behind)
  /-- A backslash takes the meaning from the character behind it. -/
  | escaped {rest behind : List Char} (c : Char) (more : Matches rest behind) :
    Matches ('\\' :: c :: rest) (c :: behind)
  /-- Everything else matches itself, also a backslash with nothing behind it. -/
  | itself {rest behind : List Char} {c : Char} (meaningless : c ∉ ['*', '?', '['])
    (last : c = '\\' → rest = []) (more : Matches rest behind) : Matches (c :: rest) (c :: behind)

theorem matches_nil_iff {text : List Char} : Matches [] text ↔ text = [] := by
  constructor
  · rintro ⟨⟩
    rfl
  · rintro rfl
    exact .nothing

theorem matches_star_iff {rest text : List Char} :
    Matches ('*' :: rest) text ↔ ∃ behind, behind <:+ text ∧ Matches rest behind := by
  constructor
  · intro whole
    cases whole with
    | anyText ending more => exact ⟨_, ending, more⟩
    | itself meaningless => exact absurd List.mem_cons_self meaningless
  · rintro ⟨behind, ending, more⟩
    exact .anyText ending more

theorem matches_mark_iff {rest text : List Char} :
    Matches ('?' :: rest) text ↔ ∃ c behind, text = c :: behind ∧ Matches rest behind := by
  constructor
  · intro whole
    cases whole with
    | anyChar c more => exact ⟨c, _, rfl, more⟩
    | itself meaningless => simp at meaningless
  · rintro ⟨c, behind, rfl, more⟩
    exact .anyChar c more

theorem matches_noneOf_iff {body text : List Char} :
    Matches ('[' :: '^' :: body) text ↔ ∃ c behind, text = c :: behind ∧
      (classRanges body).1.any (Range.contains · c) = false ∧
      Matches (classRanges body).2 behind := by
  constructor
  · intro whole
    cases whole with
    | noneOf outside more => exact ⟨_, _, rfl, outside, more⟩
    | oneOf plain => exact absurd rfl (plain body)
    | itself meaningless => simp at meaningless
  · rintro ⟨c, behind, rfl, outside, more⟩
    exact .noneOf outside more

theorem matches_oneOf_iff {body text : List Char} (plain : ∀ rest, body ≠ '^' :: rest) :
    Matches ('[' :: body) text ↔ ∃ c behind, text = c :: behind ∧
      (classRanges body).1.any (Range.contains · c) = true ∧
      Matches (classRanges body).2 behind := by
  constructor
  · intro whole
    cases whole with
    | noneOf => exact absurd rfl (plain _)
    | oneOf _ inside more => exact ⟨_, _, rfl, inside, more⟩
    | itself meaningless => simp at meaningless
  · rintro ⟨c, behind, rfl, inside, more⟩
    exact .oneOf plain inside more

theorem matches_escaped_iff {c : Char} {rest text : List Char} :
    Matches ('\\' :: c :: rest) text ↔ ∃ behind, text = c :: behind ∧ Matches rest behind := by
  constructor
  · intro whole
    cases whole with
    | escaped c more => exact ⟨_, rfl, more⟩
    | itself _ last => exact absurd (last rfl) (List.cons_ne_nil c rest)
  · rintro ⟨behind, rfl, more⟩
    exact .escaped c more

theorem matches_itself_iff {c : Char} {rest text : List Char} (meaningless : c ∉ ['*', '?', '['])
    (last : c = '\\' → rest = []) :
    Matches (c :: rest) text ↔ ∃ behind, text = c :: behind ∧ Matches rest behind := by
  constructor
  · intro whole
    cases whole with
    | itself _ _ more => exact ⟨_, rfl, more⟩
    | escaped c more => exact absurd (last rfl) (List.cons_ne_nil _ _)
    | anyText | anyChar | noneOf | oneOf => simp at meaningless
  · rintro ⟨behind, rfl, more⟩
    exact .itself meaningless last more

/-! ## The matcher -/

theorem someEnd_eq_true_iff {holds : List Char → Bool} {text : List Char} :
    someEnd holds text = true ↔ ∃ behind, behind <:+ text ∧ holds behind = true := by
  induction text with
  | nil => simp [someEnd]
  | cons c text ih => simp [someEnd, ih, List.suffix_cons_iff, or_and_right, exists_or]

theorem accepts_anyText_iff {rest : List Piece} {text : List Char} :
    accepts (.anyText :: rest) text = true ↔
      ∃ behind, behind <:+ text ∧ accepts rest behind = true := by
  rw [accepts, someEnd_eq_true_iff]

/-- A piece that is no star takes one character. -/
theorem accepts_cons_iff {piece : Piece} (single : piece ≠ .anyText) {rest : List Piece}
    {text : List Char} :
    accepts (piece :: rest) text = true ↔
      ∃ c behind, text = c :: behind ∧ piece.accepts c = true ∧ accepts rest behind = true := by
  cases text with
  | nil => simp [accepts]
  | cons c text => simp [accepts]

/-- What stands behind a class is no longer than all behind its opening bracket. -/
theorem length_classRanges_le (body : List Char) :
    (classRanges body).2.length ≤ body.length := by
  fun_induction classRanges body with
  | case1 => exact Nat.le_refl _
  | case2 rest => exact Nat.le_succ _
  | case3 c rest ranges behind found ih =>
    rw [found] at ih
    exact Nat.le_add_right_of_le (Nat.le_add_right_of_le ih)
  | case4 first last rest _ _ ranges behind found ih =>
    rw [found] at ih
    exact Nat.le_add_right_of_le (Nat.le_add_right_of_le (Nat.le_add_right_of_le ih))
  | case5 c rest _ _ _ ranges behind found ih =>
    rw [found] at ih
    exact Nat.le_add_right_of_le ih

theorem length_le_of_classRanges {body rest : List Char} {ranges : List Range}
    (found : classRanges body = (ranges, rest)) : rest.length ≤ body.length := by
  have behind := length_classRanges_le body
  rwa [found] at behind

/-- The pieces of a pattern match what the pattern matches, if all of it is cut. -/
theorem accepts_cut_iff {fuel : Nat} {pattern : List Char} (enough : pattern.length ≤ fuel)
    (text : List Char) : accepts (cut fuel pattern) text = true ↔ Matches pattern text := by
  -- Each case is a rule: its piece is cut off, and the pattern behind is shorter.
  fun_induction cut fuel pattern generalizing text with
  | case1 pattern =>
    have empty : pattern = [] := List.eq_nil_of_length_eq_zero (Nat.le_zero.1 enough)
    rw [empty, matches_nil_iff, accepts, List.isEmpty_iff]
  | case2 => rw [matches_nil_iff, accepts, List.isEmpty_iff]
  | case3 fuel rest ih =>
    have shorter : rest.length ≤ fuel := Nat.le_of_succ_le_succ enough
    rw [accepts_anyText_iff, matches_star_iff]
    simp only [ih shorter]
  | case4 fuel rest ih =>
    have shorter : rest.length ≤ fuel := Nat.le_of_succ_le_succ enough
    rw [accepts_cons_iff Piece.noConfusion, matches_mark_iff]
    simp only [ih shorter, Piece.accepts, true_and]
  | case5 fuel body ranges rest found ih =>
    have shorter : rest.length ≤ fuel := Nat.le_trans (length_le_of_classRanges found)
      (Nat.le_of_succ_le (Nat.le_of_succ_le_succ enough))
    rw [accepts_cons_iff Piece.noConfusion, matches_noneOf_iff, found]
    simp only [ih shorter, Piece.accepts, bne_iff_ne, ne_eq, Bool.not_eq_true]
  | case6 fuel body plain ranges rest found ih =>
    have shorter : rest.length ≤ fuel :=
      Nat.le_trans (length_le_of_classRanges found) (Nat.le_of_succ_le_succ enough)
    rw [accepts_cons_iff Piece.noConfusion, matches_oneOf_iff plain, found]
    simp only [ih shorter, Piece.accepts, bne_iff_ne, ne_eq, Bool.not_eq_false]
  | case7 fuel c rest ih =>
    have shorter : rest.length ≤ fuel := Nat.le_of_succ_le (Nat.le_of_succ_le_succ enough)
    rw [accepts_cons_iff Piece.noConfusion, matches_escaped_iff]
    simp [ih shorter, Piece.accepts]
  | case8 fuel c rest star mark _ bracket slash ih =>
    have shorter : rest.length ≤ fuel := Nat.le_of_succ_le_succ enough
    have meaningless : c ∉ ['*', '?', '['] := by
      simp only [List.mem_cons, List.not_mem_nil, or_false, not_or]
      exact ⟨star, mark, bracket⟩
    have last : c = '\\' → rest = [] := by
      intro isSlash
      cases rest with
      | nil => rfl
      | cons d rest => exact (slash d rest isSlash rfl).elim
    rw [accepts_cons_iff Piece.noConfusion, matches_itself_iff meaningless last]
    simp [ih shorter, Piece.accepts]

/-- The matcher follows the rules of patterns. -/
theorem isMatch_iff_matches (pattern text : String) :
    isMatch pattern text = true ↔ Matches pattern.toList text.toList :=
  accepts_cut_iff (Nat.le_refl _) _

/-! ## The pattern of a prefix -/

theorem escape_cons (c : Char) (text : List Char) :
    escape (c :: text) = (if isSpecial c then ['\\', c] else [c]) ++ escape text :=
  List.flatMap_cons

/-- A character without a meaning of its own matches itself. -/
theorem matches_plain_iff {c : Char} (plain : isSpecial c = false) {rest text : List Char} :
    Matches (c :: rest) text ↔ ∃ behind, text = c :: behind ∧ Matches rest behind := by
  simp only [isSpecial, List.contains_eq_mem, List.mem_cons, List.not_mem_nil, or_false,
    decide_eq_false_iff_not, not_or] at plain
  obtain ⟨star, mark, bracket, -, slash⟩ := plain
  apply matches_itself_iff
  · simp [star, mark, bracket]
  · exact fun isSlash => absurd isSlash slash

/-- A text that was escaped, with a star behind it, matches what begins with the text. -/
theorem matches_escape_iff (front text : List Char) :
    Matches (escape front ++ ['*']) text ↔ front <+: text := by
  induction front generalizing text with
  | nil =>
    -- The star alone matches every text, as nothing is left of the pattern behind it.
    rw [escape, List.flatMap_nil, List.nil_append, matches_star_iff]
    simp only [matches_nil_iff]
    exact iff_of_true ⟨[], List.nil_suffix, rfl⟩ List.nil_prefix
  | cons c front ih =>
    rw [escape_cons, List.cons_prefix_iff]
    cases special : isSpecial c with
    | true =>
      show Matches ('\\' :: c :: (escape front ++ ['*'])) text ↔ _
      rw [matches_escaped_iff]
      simp only [ih]
    | false =>
      show Matches (c :: (escape front ++ ['*'])) text ↔ _
      rw [matches_plain_iff special]
      simp only [ih]

/-- The pattern of a text matches exactly what begins with the text. -/
theorem isMatch_startingWith_iff (front text : String) :
    isMatch (startingWith front) text = true ↔ front.toList <+: text.toList := by
  rw [isMatch_iff_matches, startingWith, String.toList_ofList, matches_escape_iff]

/-! ## Bytes -/

/-- The bytes of a text in UTF-8, each as the character of its number. -/
def asBytes (text : List Char) : List Char :=
  (text.flatMap String.utf8EncodeChar).map Char.ofUInt8

theorem asBytes_cons (c : Char) (text : List Char) :
    asBytes (c :: text) = asBytes [c] ++ asBytes text := by
  simp [asBytes]

theorem asBytes_append (text other : List Char) :
    asBytes (text ++ other) = asBytes text ++ asBytes other := by
  simp [asBytes]

theorem escape_append (text other : List Char) :
    escape (text ++ other) = escape text ++ escape other :=
  List.flatMap_append

/-- A text in which nothing has a meaning of its own is its own pattern. -/
theorem escape_eq_self {text : List Char} (plain : ∀ c ∈ text, isSpecial c = false) :
    escape text = text := by
  induction text with
  | nil => rfl
  | cons c text ih =>
    obtain ⟨first, others⟩ := List.forall_mem_cons.1 plain
    rw [escape_cons, first, ih others]
    rfl

theorem special_cases {c : Char} (special : isSpecial c = true) :
    c = '*' ∨ c = '?' ∨ c = '[' ∨ c = ']' ∨ c = '\\' := by
  simpa [isSpecial] using special

theorem toNat_ofUInt8 (byte : UInt8) : (Char.ofUInt8 byte).toNat = byte.toNat := rfl

theorem ofUInt8_injective : Function.Injective Char.ofUInt8 := by
  intro byte other same
  rw [← UInt8.toNat_inj, ← toNat_ofUInt8, same, toNat_ofUInt8]

/-- A byte of a character is the character itself, or none of ASCII. -/
theorem eq_or_le_of_mem_utf8EncodeChar {c : Char} {byte : UInt8}
    (mem : byte ∈ String.utf8EncodeChar c) : Char.ofUInt8 byte = c ∨ 128 ≤ byte.toNat := by
  rw [String.utf8EncodeChar.eq_1] at mem
  split_ifs at mem with one two three
  · left
    rw [List.mem_singleton.1 mem, ← Char.toNat_inj, toNat_ofUInt8, UInt8.toNat_ofNat']
    exact Nat.mod_eq_of_lt (Nat.lt_of_le_of_lt one (by decide))
  all_goals
    -- A character of several bytes has the highest bit set in each of them.
    right
    simp only [List.mem_cons, List.not_mem_nil, or_false] at mem
    rcases mem with rfl | rfl | rfl | rfl <;> rw [UInt8.toNat_ofNat'] <;> omega

theorem isSpecial_ofUInt8 {c : Char} (plain : isSpecial c = false) {byte : UInt8}
    (mem : byte ∈ String.utf8EncodeChar c) : isSpecial (Char.ofUInt8 byte) = false := by
  rcases eq_or_le_of_mem_utf8EncodeChar mem with same | large
  · rwa [same]
  · rw [Bool.eq_false_iff]
    intro special
    rw [← toNat_ofUInt8] at large
    rcases special_cases special with found | found | found | found | found <;>
      exact absurd large (by rw [found]; decide)

/-- Escaping the characters of a text is escaping its bytes. -/
theorem escape_asBytes (text : List Char) : escape (asBytes text) = asBytes (escape text) := by
  induction text with
  | nil => rfl
  | cons c text ih =>
    rw [asBytes_cons, escape_append, ih, escape_cons, asBytes_append]
    congr 1
    cases special : isSpecial c with
    | true =>
      rcases special_cases special with rfl | rfl | rfl | rfl | rfl <;> decide
    | false =>
      apply escape_eq_self
      intro d mem
      obtain ⟨byte, among, rfl⟩ := List.mem_map.1 mem
      rw [List.flatMap_singleton] at among
      exact isSpecial_ofUInt8 special among

/-- A text begins with another one when its bytes do. -/
theorem asBytes_prefix_iff (front text : List Char) :
    asBytes front <+: asBytes text ↔ front <+: text := by
  constructor
  · intro begins
    obtain ⟨bytes, ⟨rest, whole⟩, same⟩ := List.prefix_map_iff.1 begins
    obtain rfl := ofUInt8_injective.list_map same
    apply List.isPrefix_of_utf8Encode_append_eq_utf8Encode rest.toByteArray
    rw [List.utf8Encode, List.utf8Encode, ← whole, List.toByteArray_append]
  · rintro ⟨rest, rfl⟩
    rw [asBytes_append]
    exact List.prefix_append _ _

/-- The pattern of a text is literal: by the rules of patterns it matches exactly what begins with the
text, compared by characters or by bytes, and so the matcher finds. -/
theorem matches_startingWith_iff (front text : String) :
    (Matches (startingWith front).toList text.toList ↔ front.toList <+: text.toList) ∧
      (Matches (asBytes (startingWith front).toList) (asBytes text.toList) ↔
        front.toList <+: text.toList) ∧
      (isMatch (startingWith front) text = true ↔ front.toList <+: text.toList) := by
  have pattern : (startingWith front).toList = escape front.toList ++ ['*'] := String.toList_ofList
  refine ⟨?_, ?_, isMatch_startingWith_iff front text⟩
  · rw [pattern, matches_escape_iff]
  · have star : asBytes ['*'] = ['*'] := by decide
    rw [pattern, asBytes_append, star, ← escape_asBytes, matches_escape_iff, asBytes_prefix_iff]

end CompletionCache.Glob
