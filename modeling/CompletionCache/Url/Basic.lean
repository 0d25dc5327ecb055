import CompletionCache.Url.Host
import CompletionCache.Url.Path

/-!
# Addresses

A `Url` is a scheme, an authority that may be absent, a path, and a query and a fragment that may be
absent, each in its normal written form. `Url.parse` reads an absolute address: blank space around
it and line breaks inside it are passed over, user names and paths are percent encoded, and dot
segments are resolved. `Url.text` writes it.
-/

set_option autoImplicit false

namespace CompletionCache

/-- Who is asked and as whom. A password is never empty. -/
structure Authority where
  username : List Char
  password : Option (List Char)
  host : Host
  port : Option Nat
  deriving DecidableEq

/-- An absolute address. -/
structure Url where
  scheme : List Char
  authority : Option Authority
  path : List Char
  query : Option (List Char)
  fragment : Option (List Char)
  deriving DecidableEq

namespace Url

/-! ## Schemes -/

/-- The special schemes with their default ports. -/
def defaultPorts : List (List Char × Nat) :=
  [("http".toList, 80), ("https".toList, 443), ("ws".toList, 80), ("wss".toList, 443),
    ("ftp".toList, 21)]

/-- The scheme of local files. -/
def fileScheme : List Char := "file".toList

/-- Whether a scheme has rules of its own for hosts and slashes. -/
def isSpecial (scheme : List Char) : Bool :=
  scheme == fileScheme || (defaultPorts.lookup scheme).isSome

/-- The scheme in front of a colon, in small letters, and what follows the colon. -/
def readScheme : List Char → Option (List Char × List Char)
  | [] => none
  | c :: rest =>
    if c.isAlpha then
      let name := rest.takeWhile fun c => c.isAlphanum || ['+', '-', '.'].contains c
      match rest.drop name.length with
      | ':' :: rest => some ((c :: name).map Char.toLower, rest)
      | _ => none
    else none

/-! ## Authorities -/

/-- Whether a character ends the authority. -/
def endsAuthority (special : Bool) (c : Char) : Bool :=
  c == '/' || c == '?' || c == '#' || (special && c == '\\')

/-- The text before the last `@` of the authority, if it has one, and what follows it. -/
def splitUserinfo (special : Bool) (text : List Char) : Option (List Char) × List Char :=
  let authority := text.takeWhile fun c => !endsAuthority special c
  if authority.contains '@' then
    let host := (authority.reverse.takeWhile (· ≠ '@')).reverse
    let length := authority.length - host.length
    (some (authority.take (length - 1)), text.drop length)
  else (none, text)

/-- The user name and the password. An empty password counts as none. -/
def readUserinfo (text : List Char) : List Char × Option (List Char) :=
  let name := text.takeWhile (· ≠ ':')
  let secret := text.drop (name.length + 1)
  (Percent.encode Percent.inUserinfo name,
    if secret.isEmpty then none else some (Percent.encode Percent.inUserinfo secret))

/-- The length of the host at the front: a colon ends it, unless it stands in brackets. -/
def hostLength (special : Bool) : (inBrackets : Bool) → List Char → Nat
  | _, [] => 0
  | inBrackets, c :: rest =>
    if endsAuthority special c || (c == ':' && !inBrackets) then 0
    else
      let inBrackets := if c = '[' then true else if c = ']' then false else inBrackets
      hostLength special inBrackets rest + 1

/-- The port at the front, behind its colon, if its digits write one. -/
def readPort (text : List Char) : Except UrlFault (Option Nat × List Char) :=
  let digits := text.takeWhile Char.isDigit
  let rest := text.drop digits.length
  let port := Positional.decimal digits
  if 65535 < port then .error .invalidPort
  else if rest.head?.all ['/', '\\', '?', '#'].contains then
    .ok (if digits.isEmpty then none else some port, rest)
  else .error .invalidPort

/-- Reads the host at the front. Only a general scheme has empty ones, and they have no port. -/
def readHost (special : Bool) (text : List Char) : Except UrlFault (Host × List Char) := do
  let length := hostLength special false text
  let rest := text.drop length
  if special ∧ length = 0 then throw .emptyHost
  let host ← if special then Host.parseSpecial (text.take length) else Host.parse (text.take length)
  if host = .empty ∧ rest.head? = some ':' then throw .emptyHost
  return (host, rest)

/-- Reads the colon and the port behind a host, if there are any. -/
def readPort? : List Char → Except UrlFault (Option Nat × List Char)
  | ':' :: rest => readPort rest
  | rest => .ok (none, rest)

/-- Reads an authority behind its two slashes. -/
def readAuthority (scheme text : List Char) : Except UrlFault (Authority × List Char) := do
  let special := isSpecial scheme
  let (userinfo, text) := splitUserinfo special text
  if userinfo = some [] ∧ text.head?.any (endsAuthority special) then throw .emptyHost
  let (username, password) := readUserinfo (userinfo.getD [])
  let (host, rest) ← readHost special text
  let (port, rest) ← readPort? rest
  if host = .empty ∧ (!username.isEmpty ∨ password.isSome) then throw .emptyHost
  let port := if port = defaultPorts.lookup scheme then none else port
  return (⟨username, password, host, port⟩, rest)

/-! ## Addresses -/

/-- Reads the path behind an authority. A path that does not start with a slash gets one. -/
def readPath (special : Bool) (text : List Char) : List Char × List Char :=
  match text with
  | [] => if special then (['/'], []) else ([], [])
  | c :: rest =>
    if c = '/' ∨ (special ∧ c = '\\') then Path.read special ['/'] [] rest
    else if special then Path.read special ['/'] [] text
    else if c = '?' ∨ c = '#' then ([], text)
    else Path.read special ['/'] [] text

/-- Reads the query and the fragment. -/
def readTail (special : Bool) (text : List Char) : Option (List Char) × Option (List Char) :=
  let (query, rest) := match text with
    | '?' :: rest =>
      let query := rest.takeWhile (· ≠ '#')
      (some (Percent.encode (if special then Percent.inSpecialQuery else Percent.inQuery) query),
        rest.drop query.length)
    | rest => (none, rest)
  match rest with
  | '#' :: rest => (query, some (Percent.encode Percent.inFragment rest))
  | _ => (query, none)

/-- Reads the address of a local file, behind its scheme. -/
def readFile (text : List Char) : Except UrlFault Url := do
  let isSlash (c : Char) : Bool := c == '/' || c == '\\'
  let slashes := (text.take 2).all isSlash && decide (2 ≤ text.length)
  let text := if slashes then text.drop 2 else text
  let name := if slashes then text.takeWhile fun c => !endsAuthority true c else []
  let host ← if name.isEmpty then pure .empty else Host.parseSpecial name
  let host := if host = .domain "localhost".toList then .empty else host
  let (path, rest) := readPath true (text.drop name.length)
  let (query, fragment) := readTail true rest
  return ⟨fileScheme, some ⟨[], none, host, none⟩, '/' :: path.dropWhile (· == '/'), query,
    fragment⟩

/-- Whether a character is a control or the space. -/
def isOuter (c : Char) : Bool := decide (c.toNat ≤ 32)

/-- The text without controls and spaces at its ends, and without line breaks and tabs. -/
def cleaned (text : List Char) : List Char :=
  let front := text.dropWhile isOuter
  let both := (front.reverse.dropWhile isOuter).reverse
  both.filter fun c => !(['\t', '\n', '\r'].contains c)

/-- The address that a text writes. -/
def parse (text : List Char) : Except UrlFault Url := do
  let some (scheme, rest) := readScheme (cleaned text)
    | throw .noScheme
  if scheme = fileScheme then readFile rest
  else if isSpecial scheme then
    let (authority, rest) ← readAuthority scheme (rest.dropWhile fun c => c == '/' || c == '\\')
    let (path, rest) := readPath true rest
    let (query, fragment) := readTail true rest
    return ⟨scheme, some authority, path, query, fragment⟩
  else
    match rest with
    | '/' :: '/' :: rest =>
      let (authority, rest) ← readAuthority scheme rest
      let (path, rest) := readPath false rest
      let (query, fragment) := readTail false rest
      return ⟨scheme, some authority, path, query, fragment⟩
    | '/' :: rest =>
      let (path, rest) := Path.read false ['/'] [] rest
      let (query, fragment) := readTail false rest
      return ⟨scheme, none, path, query, fragment⟩
    | rest =>
      let path := rest.takeWhile fun c => c ≠ '?' ∧ c ≠ '#'
      let (query, fragment) := readTail false (rest.drop path.length)
      return ⟨scheme, none, Percent.encode Percent.controls path, query, fragment⟩

/-! ## Text -/

/-- The text of an authority. -/
def Authority.text (authority : Authority) : List Char :=
  let secret := match authority.password with
    | some password => ':' :: password
    | none => []
  let userinfo := authority.username ++ secret
  let port := match authority.port with
    | some port => ':' :: Nat.toDigits 10 port
    | none => []
  (if userinfo.isEmpty then [] else userinfo ++ ['@']) ++ authority.host.text ++ port

/-- The text of an address. A path without an authority before it never starts with two slashes. -/
def text (url : Url) : List Char :=
  let authority := match url.authority with
    | some authority => '/' :: '/' :: Authority.text authority
    | none => if url.path.take 2 = ['/', '/'] then ['/', '.'] else []
  let query := match url.query with
    | some query => '?' :: query
    | none => []
  let fragment := match url.fragment with
    | some fragment => '#' :: fragment
    | none => []
  url.scheme ++ ':' :: authority ++ url.path ++ query ++ fragment

/-- The host, unless it is absent or empty. -/
def host? (url : Url) : Option Host :=
  (url.authority.map Authority.host).filter (· ≠ .empty)

/-- The user name, empty without an authority. -/
def username (url : Url) : List Char := (url.authority.map Authority.username).getD []

/-- The password, if there is one. -/
def password? (url : Url) : Option (List Char) := url.authority.bind Authority.password

/-- The address with another password in the place of its own, if it has one. -/
def hidePassword (url : Url) (shown : List Char) : Url :=
  { url with authority := url.authority.map fun authority =>
      { authority with password := authority.password.map fun _ => shown } }

end Url

end CompletionCache
