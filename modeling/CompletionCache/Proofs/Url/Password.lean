import Mathlib.Data.List.Basic
import CompletionCache.Proofs.Json.Record
import CompletionCache.Url.Basic

/-!
# Where the password of an address stands

The text of an address with a password is a `Frame` around the password: a scheme and the name of a user
before it, a host with all that follows behind it. An address that is read with a password has such a
frame (`Frame.exists_of_parse`), and the same frame around another password reads as the same address
with the other password (`Frame.parse_text`).
-/

set_option autoImplicit false

namespace CompletionCache.Url

open Json (bind_eq_ok)

/-! ## Schemes -/

/-- Whether a text is a scheme as it is written: a letter, and then letters, digits and three marks. -/
def IsScheme : List Char → Prop
  | [] => False
  | c :: name => c.isAlpha ∧ name.all fun d => d.isAlphanum || ['+', '-', '.'].contains d

theorem readScheme_append {written : List Char} (isScheme : IsScheme written) (rest : List Char) :
    readScheme (written ++ ':' :: rest) = some (written.map Char.toLower, rest) := by
  cases written with
  | nil => exact isScheme.elim
  | cons c name =>
    obtain ⟨letter, marks⟩ := isScheme
    have taken : (name ++ ':' :: rest).takeWhile
        (fun d => d.isAlphanum || ['+', '-', '.'].contains d) = name := by
      rw [List.takeWhile_append_of_pos (List.all_eq_true.1 marks),
        List.takeWhile_cons_of_neg (by decide), List.append_nil]
    rw [List.cons_append, readScheme, if_pos letter]
    dsimp only
    rw [taken, List.drop_left]
    rfl

theorem of_readScheme {text scheme rest : List Char} (read : readScheme text = some (scheme, rest)) :
    ∃ written, IsScheme written ∧ text = written ++ ':' :: rest ∧
      scheme = written.map Char.toLower := by
  cases text with
  | nil => cases read
  | cons c text =>
    rw [readScheme] at read
    split_ifs at read with letter
    dsimp only at read
    -- What the marks leave has to start with the colon.
    split at read
    case h_2 => cases read
    case h_1 behind stopped =>
      cases read
      refine ⟨c :: text.takeWhile _, ⟨letter, List.all_takeWhile⟩, ?_, rfl⟩
      rw [List.cons_append, ← stopped, List.prefix_iff_eq_append.1 (List.takeWhile_prefix _)]

/-! ## User names and passwords -/

theorem takeWhile_ne_append {mark : Char} {front : List Char} (free : mark ∉ front)
    (rest : List Char) : (front ++ mark :: rest).takeWhile (· ≠ mark) = front := by
  have others : ∀ c ∈ front, decide (c ≠ mark) = true := by
    intro c mem
    rw [decide_eq_true_eq]
    rintro rfl
    exact free mem
  rw [List.takeWhile_append_of_pos others, List.takeWhile_cons_of_neg (by simp), List.append_nil]

/-- Whether no character of a text ends the authority. -/
def isPlain (special : Bool) (text : List Char) : Bool := text.all fun c => !endsAuthority special c

theorem isPlain_append_colon (user secret : List Char) :
    isPlain false (user ++ ':' :: secret) = (isPlain false user && isPlain false secret) := by
  rw [isPlain, List.all_append, List.all_cons]
  rfl

theorem takeWhile_append_at {special : Bool} {user : List Char} (plain : isPlain special user)
    (rest : List Char) :
    (user ++ '@' :: rest).takeWhile (fun c => !endsAuthority special c) =
      user ++ '@' :: rest.takeWhile fun c => !endsAuthority special c := by
  have mark : (!endsAuthority special '@') = true := by cases special <;> decide
  simp only [List.takeWhile_append_of_pos (List.all_eq_true.1 plain), List.takeWhile_cons, mark,
    if_true]

theorem splitUserinfo_append {special : Bool} {user rest : List Char}
    (plain : isPlain special user)
    (last : '@' ∉ rest.takeWhile fun c => !endsAuthority special c) :
    splitUserinfo special (user ++ '@' :: rest) = (some user, rest) := by
  rw [splitUserinfo, takeWhile_append_at plain]
  generalize rest.takeWhile (fun c => !endsAuthority special c) = host at last
  have behind : ((user ++ '@' :: host).reverse.takeWhile (· ≠ '@')).reverse = host := by
    have free : '@' ∉ host.reverse := fun mem => last (List.mem_reverse.1 mem)
    rw [List.reverse_append, List.reverse_cons, List.append_assoc, List.singleton_append,
      takeWhile_ne_append free, List.reverse_reverse]
  have length : (user ++ '@' :: host).length - host.length = user.length + 1 := by
    rw [List.length_append, List.length_cons]
    omega
  dsimp only
  rw [if_pos (by simp), behind, length]
  simp

theorem of_splitUserinfo {special : Bool} {text user rest : List Char}
    (split : splitUserinfo special text = (some user, rest)) :
    text = user ++ '@' :: rest ∧ isPlain special user ∧
      '@' ∉ rest.takeWhile fun c => !endsAuthority special c := by
  by_cases mark : '@' ∈ text.takeWhile fun c => !endsAuthority special c
  · -- The authority is cut at its last mark, the first one from behind.
    obtain ⟨host, name, cut, free⟩ := List.eq_append_cons_of_mem (List.mem_reverse.2 mark)
    have authority : (text.takeWhile fun c => !endsAuthority special c) =
        name.reverse ++ '@' :: host.reverse := by
      rw [← List.reverse_reverse (text.takeWhile _), cut]
      simp
    have plain : isPlain special name.reverse := by
      have taken : isPlain special (text.takeWhile fun c => !endsAuthority special c) :=
        List.all_takeWhile
      rw [authority, isPlain, List.all_append, Bool.and_eq_true] at taken
      exact taken.1
    have whole : text = name.reverse ++ '@' ::
        (host.reverse ++ text.dropWhile fun c => !endsAuthority special c) := by
      rw [← List.cons_append, ← List.append_assoc, ← authority, List.takeWhile_append_dropWhile]
    generalize host.reverse ++ text.dropWhile (fun c => !endsAuthority special c) = behind at whole
    have last : '@' ∉ behind.takeWhile fun c => !endsAuthority special c := by
      rw [whole, takeWhile_append_at plain] at authority
      rw [(List.cons.inj (List.append_cancel_left authority)).2]
      exact fun mem => free (List.mem_reverse.1 mem)
    rw [whole, splitUserinfo_append plain last] at split
    cases split
    exact ⟨whole, plain, last⟩
  · rw [splitUserinfo] at split
    dsimp only at split
    rw [if_neg (by simpa using mark)] at split
    cases split

theorem readUserinfo_append {name : List Char} (free : ':' ∉ name) (secret : List Char) :
    readUserinfo (name ++ ':' :: secret) = (Percent.encode Percent.inUserinfo name,
      if secret.isEmpty then none else some (Percent.encode Percent.inUserinfo secret)) := by
  rw [readUserinfo, takeWhile_ne_append free]
  simp

theorem of_readUserinfo {text name password : List Char}
    (read : readUserinfo text = (name, some password)) :
    ∃ user secret, text = user ++ ':' :: secret ∧ ':' ∉ user ∧ secret ≠ [] ∧
      password = Percent.encode Percent.inUserinfo secret := by
  by_cases mark : ':' ∈ text
  · obtain ⟨user, secret, cut, free⟩ := List.eq_append_cons_of_mem mark
    rw [cut, readUserinfo_append free] at read
    split_ifs at read with blank
    · cases read
    · cases read
      exact ⟨user, secret, cut, free, by simpa using blank, rfl⟩
  · -- Without a colon all of the text is the name.
    have taken : text.takeWhile (· ≠ ':') = text := by
      rw [List.takeWhile_eq_self_iff]
      intro c mem
      rw [decide_eq_true_eq]
      rintro rfl
      exact mark mem
    rw [readUserinfo, taken] at read
    simp at read

/-! ## Addresses of general schemes -/

/-- The address of a scheme and an authority, with what stands behind it. -/
def located (scheme : List Char) (found : Authority × List Char) : Url :=
  let (path, rest) := readPath false found.2
  let (query, fragment) := readTail false rest
  ⟨scheme, some found.1, path, query, fragment⟩

theorem ne_fileScheme {scheme : List Char} (isGeneral : isSpecial scheme = false) :
    scheme ≠ fileScheme := by
  rintro rfl
  cases isGeneral

theorem parse_of_authority {text written rest : List Char} (isScheme : IsScheme written)
    (isGeneral : isSpecial (written.map Char.toLower) = false)
    (cleanText : cleaned text = written ++ ':' :: '/' :: '/' :: rest) :
    parse text = (readAuthority (written.map Char.toLower) rest).map
      (located (written.map Char.toLower)) := by
  rw [parse, cleanText, readScheme_append isScheme]
  dsimp only
  rw [if_neg (ne_fileScheme isGeneral), if_neg (by simp [isGeneral])]
  change (readAuthority (written.map Char.toLower) rest >>= fun found =>
    pure (located (written.map Char.toLower) found)) = _
  cases readAuthority (written.map Char.toLower) rest <;> rfl

theorem scheme_of_readFile {text : List Char} {url : Url} (read : readFile text = .ok url) :
    url.scheme = fileScheme := by
  rw [readFile] at read
  dsimp only at read
  split_ifs at read
  all_goals
    obtain ⟨host, -, read⟩ := bind_eq_ok.1 read
    cases read
    rfl

/-- An address of a general scheme with an authority is read behind two slashes. -/
theorem authority_of_parse {text : List Char} {url : Url} {authority : Authority}
    (isGeneral : isSpecial url.scheme = false) (parsed : parse text = .ok url)
    (given : url.authority = some authority) :
    ∃ written rest left, IsScheme written ∧ isSpecial (written.map Char.toLower) = false ∧
      cleaned text = written ++ ':' :: '/' :: '/' :: rest ∧
      readAuthority (written.map Char.toLower) rest = .ok (authority, left) := by
  rw [parse] at parsed
  cases found : readScheme (cleaned text) with
  | none =>
    rw [found] at parsed
    cases parsed
  | some pair =>
    obtain ⟨scheme, rest⟩ := pair
    obtain ⟨written, isScheme, cleanText, rfl⟩ := of_readScheme found
    rw [found] at parsed
    dsimp only at parsed
    split_ifs at parsed with file special
    · rw [scheme_of_readFile parsed] at isGeneral
      cases isGeneral
    · obtain ⟨⟨_, _⟩, -, parsed⟩ := bind_eq_ok.1 parsed
      cases parsed
      rw [special] at isGeneral
      cases isGeneral
    · -- Only two slashes lead to an authority.
      split at parsed
      · obtain ⟨⟨other, left⟩, read, parsed⟩ := bind_eq_ok.1 parsed
        cases parsed
        cases given
        exact ⟨written, _, left, isScheme, by simpa using special, cleanText, read⟩
      · cases parsed
        cases given
      · cases parsed
        cases given

/-- A password is read from the text before the host. -/
theorem userinfo_of_readAuthority {scheme text left password : List Char} {authority : Authority}
    (read : readAuthority scheme text = .ok (authority, left))
    (signed : authority.password = some password) :
    ∃ userinfo host name, splitUserinfo (isSpecial scheme) text = (some userinfo, host) ∧
      readUserinfo userinfo = (name, some password) := by
  rw [readAuthority] at read
  dsimp only at read
  split_ifs at read with blank
  · cases read
  · obtain ⟨host, -, read⟩ := bind_eq_ok.1 read
    obtain ⟨port, -, read⟩ := bind_eq_ok.1 read
    by_cases unnamed : host.1 = .empty ∧
        ((!(readUserinfo ((splitUserinfo (isSpecial scheme) text).1.getD [])).1.isEmpty) = true ∨
          (readUserinfo ((splitUserinfo (isSpecial scheme) text).1.getD [])).2.isSome = true)
    · rw [if_pos unnamed] at read
      cases read
    · rw [if_neg unnamed] at read
      cases read
      cases split : splitUserinfo (isSpecial scheme) text with
      | mk userinfo behind =>
        rw [split] at signed
        cases userinfo with
        | none => cases signed
        | some userinfo => exact ⟨userinfo, behind, _, rfl, Prod.ext_iff.2 ⟨rfl, signed⟩⟩

/-! ## Frames -/

/-- What stands around the password in the text of an address. -/
structure Frame where
  scheme : List Char
  user : List Char
  host : List Char
  isScheme : IsScheme scheme
  isGeneral : isSpecial (scheme.map Char.toLower) = false
  user_free : ':' ∉ user
  user_plain : isPlain false user
  host_free : '@' ∉ host.takeWhile fun c => !endsAuthority false c

/-- A text that can stand for a password: no part of it is taken for something behind the authority. -/
structure IsSecret (secret : List Char) : Prop where
  ne_nil : secret ≠ []
  plain : isPlain false secret

namespace Frame

/-- The user and the password, and the host with what follows it. -/
def authority (frame : Frame) (secret : List Char) : List Char :=
  (frame.user ++ ':' :: secret) ++ '@' :: frame.host

/-- The text of the address with a password. -/
def text (frame : Frame) (secret : List Char) : List Char :=
  frame.scheme ++ ':' :: '/' :: '/' :: frame.authority secret

variable (frame : Frame) {secret other : List Char}

theorem splitUserinfo_authority (isSecret : IsSecret secret) :
    splitUserinfo false (frame.authority secret) =
      (some (frame.user ++ ':' :: secret), frame.host) := by
  refine splitUserinfo_append ?_ frame.host_free
  rw [isPlain_append_colon, frame.user_plain, isSecret.plain]
  rfl

theorem readUserinfo_authority (isSecret : IsSecret secret) :
    readUserinfo (frame.user ++ ':' :: secret) =
      (Percent.encode Percent.inUserinfo frame.user,
        some (Percent.encode Percent.inUserinfo secret)) := by
  rw [readUserinfo_append frame.user_free, if_neg (by simpa using isSecret.ne_nil)]

/-- The same frame around another password reads as the same authority with the other password. -/
theorem readAuthority_authority {scheme : List Char} (isGeneral : isSpecial scheme = false)
    (isSecret : IsSecret secret) (isOther : IsSecret other) :
    readAuthority scheme (frame.authority secret) =
      (readAuthority scheme (frame.authority other)).map fun found =>
        ({ found.1 with
          password := found.1.password.map fun _ => Percent.encode Percent.inUserinfo secret },
          found.2) := by
  rw [readAuthority, readAuthority]
  simp only [isGeneral, splitUserinfo_authority frame isSecret,
    splitUserinfo_authority frame isOther, Option.getD_some, readUserinfo_authority frame isSecret,
    readUserinfo_authority frame isOther]
  rw [if_neg (by simp), if_neg (by simp)]
  simp only [Option.isSome_some, or_true, and_true]
  -- From here on only the host is read, which is the same text in both.
  cases readHost false frame.host with
  | error fault => rfl
  | ok found =>
    obtain ⟨host, behind⟩ := found
    change (readPort? behind >>= _) = Except.map _ (readPort? behind >>= _)
    cases readPort? behind with
    | error fault => rfl
    | ok left =>
      by_cases blank : host = .empty
      · rw [blank]
        rfl
      · change (if _ then _ else _) = Except.map _ (if _ then _ else _)
        rw [if_neg blank, if_neg blank]
        rfl

/-- The same frame around another password reads as the same address with the other password. -/
theorem parse_text {text text' : List Char} (isSecret : IsSecret secret) (isOther : IsSecret other)
    (written : cleaned text = frame.text secret) (written' : cleaned text' = frame.text other) :
    parse text =
      (parse text').map (·.hidePassword (Percent.encode Percent.inUserinfo secret)) := by
  rw [parse_of_authority frame.isScheme frame.isGeneral written,
    parse_of_authority frame.isScheme frame.isGeneral written',
    frame.readAuthority_authority frame.isGeneral isSecret isOther]
  cases readAuthority _ (frame.authority other) <;> rfl

/-- An address that is read with a password has a frame around it. -/
theorem exists_of_parse {text : List Char} {url : Url} {password : List Char}
    (isGeneral : isSpecial url.scheme = false) (parsed : parse text = .ok url)
    (signed : url.password? = some password) :
    ∃ (frame : Frame) (secret : List Char), IsSecret secret ∧ cleaned text = frame.text secret ∧
      password = Percent.encode Percent.inUserinfo secret := by
  obtain ⟨authority, given, signed⟩ := Option.bind_eq_some_iff.1 signed
  obtain ⟨written, rest, left, isScheme, isGeneral, cleanText, read⟩ :=
    authority_of_parse isGeneral parsed given
  obtain ⟨userinfo, host, name, split, named⟩ := userinfo_of_readAuthority read signed
  rw [isGeneral] at split
  obtain ⟨rfl, plain, hostFree⟩ := of_splitUserinfo split
  obtain ⟨user, secret, rfl, userFree, ne, rfl⟩ := of_readUserinfo named
  rw [isPlain_append_colon, Bool.and_eq_true] at plain
  exact ⟨⟨written, user, host, isScheme, isGeneral, userFree,
    plain.1, hostFree⟩, secret, ⟨ne, plain.2⟩, cleanText, rfl⟩

end Frame

end CompletionCache.Url
