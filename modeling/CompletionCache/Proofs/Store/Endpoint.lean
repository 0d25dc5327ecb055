import CompletionCache.Proofs.Json.Record
import CompletionCache.Store.Endpoint

/-!
# Which addresses lead to a store

An address leads to a store when it gives a client what it needs (`ofUrl_eq_ok_iff`): at a host, a name
of it, no encryption, a path that is empty or a number, and credentials that are texts; at a socket, a
path on this machine, and a database that is a number if one is named.
-/

set_option autoImplicit false

namespace CompletionCache.Endpoint

open Json (bind_eq_ok)

/-- The bytes that a part of an address stands for are a text. -/
def IsText (part : List Char) : Prop := ∃ text, Percent.utf8? (Percent.decode part) = some text

/-- A text is a number of 64 bits with a sign. -/
def IsNumber (text : List Char) : Prop := ∃ number, Positional.int64? text = some number

/-! ## Parts -/

theorem readDatabase_eq_ok_iff (path : List Char) :
    (∃ number, readDatabase path = .ok number) ↔ path = [] ∨ IsNumber path := by
  rw [readDatabase, ← List.isEmpty_iff, IsNumber]
  split_ifs with empty
  · simp [empty]
  · cases Positional.int64? path <;> simp [empty]

theorem readUsername_eq_ok_iff (username : List Char) :
    (∃ name, readUsername username = .ok name) ↔ username = [] ∨ IsText username := by
  rw [readUsername, ← List.isEmpty_iff, IsText]
  split_ifs with empty
  · simp [empty]
  · cases Percent.utf8? (Percent.decode username) <;> simp [empty]

theorem readPassword_eq_ok_iff (password? : Option (List Char)) :
    (∃ secret, readPassword password? = .ok secret) ↔
      ∀ password, password? = some password → IsText password := by
  cases password? with
  | none => simp [readPassword]
  | some password =>
    rw [readPassword]
    cases decoded : Percent.utf8? (Percent.decode password) <;> simp [IsText, decoded]

theorem readPassword_eq_some_iff {password? : Option (List Char)} {secret : String} :
    readPassword password? = .ok (some secret) ↔
      ∃ written, password? = some written ∧
        Percent.utf8? (Percent.decode written) = some secret := by
  cases password? with
  | none => simp [readPassword]
  | some written =>
    rw [readPassword]
    cases decoded : Percent.utf8? (Percent.decode written) <;> simp [decoded]

theorem readQueryDatabase_eq_ok_iff (value : Option (List UInt8)) :
    (∃ number, readQueryDatabase value = .ok number) ↔
      ∀ bytes, value = some bytes → IsNumber (bytes.map fun b => Char.ofNat b.toNat) := by
  cases value with
  | none => simp [readQueryDatabase]
  | some bytes =>
    rw [readQueryDatabase]
    cases parsed : Positional.int64? (bytes.map fun b => Char.ofNat b.toNat) <;>
      simp [IsNumber, parsed]

/-! ## Addresses -/

/-- What a client needs of the address of a host. It cannot encrypt a connection. -/
structure HostUsable (url : Url) : Prop where
  host : ∃ host, url.host? = some host
  plain : url.scheme ≠ encryptedScheme
  database : trimSlashes url.path = [] ∨ IsNumber (trimSlashes url.path)
  username : url.username = [] ∨ IsText url.username
  password : ∀ password, url.password? = some password → IsText password

/-- What a client needs of the address of a socket. -/
structure SocketUsable (url : Url) : Prop where
  path : url.path.head? = some '/'
  host : ∀ host, url.host? = some host → host = .domain "localhost".toList
  database : ∀ bytes, queryValue? url "db" = some bytes →
    IsNumber (bytes.map fun b => Char.ofNat b.toNat)

/-- What a client needs of an address. -/
def Usable (url : Url) : Prop :=
  if socketSchemes.contains url.scheme then SocketUsable url else HostUsable url

/-- What the endpoint at a host is put together from. -/
theorem ofHost_eq_ok_iff {url : Url} {endpoint : Endpoint} :
    ofHost url = .ok endpoint ↔ url.scheme ≠ encryptedScheme ∧
      ∃ host database username password, url.host? = some host ∧
        readDatabase (trimSlashes url.path) = .ok database ∧
        readUsername url.username = .ok username ∧ readPassword url.password? = .ok password ∧
        endpoint = .tcp host ((url.authority.bind Authority.port).getD defaultPort) database username
          password := by
  rw [ofHost]
  constructor
  · intro ok
    cases given : url.host? with
    | none =>
      rw [given] at ok
      cases ok
    | some host =>
      rw [given] at ok
      dsimp only at ok
      split_ifs at ok with encrypted
      · cases ok
      · obtain ⟨database, databaseRead, ok⟩ := bind_eq_ok.1 ok
        obtain ⟨username, usernameRead, ok⟩ := bind_eq_ok.1 ok
        obtain ⟨password, passwordRead, ok⟩ := bind_eq_ok.1 ok
        cases ok
        exact ⟨encrypted, host, database, username, password, rfl, databaseRead, usernameRead,
          passwordRead, rfl⟩
  · rintro ⟨plain, host, database, username, password, given, databaseRead, usernameRead,
      passwordRead, rfl⟩
    rw [given]
    dsimp only
    rw [if_neg plain, databaseRead, usernameRead, passwordRead]
    rfl

theorem exists_ofHost_iff (url : Url) : (∃ endpoint, ofHost url = .ok endpoint) ↔ HostUsable url := by
  constructor
  · rintro ⟨endpoint, ok⟩
    obtain ⟨plain, host, database, username, password, given, databaseRead, usernameRead,
      passwordRead, -⟩ := ofHost_eq_ok_iff.1 ok
    exact ⟨⟨host, given⟩, plain, (readDatabase_eq_ok_iff _).1 ⟨_, databaseRead⟩,
      (readUsername_eq_ok_iff _).1 ⟨_, usernameRead⟩, (readPassword_eq_ok_iff _).1 ⟨_, passwordRead⟩⟩
  · rintro ⟨⟨host, given⟩, plain, database, username, password⟩
    obtain ⟨database, databaseRead⟩ := (readDatabase_eq_ok_iff _).2 database
    obtain ⟨username, usernameRead⟩ := (readUsername_eq_ok_iff _).2 username
    obtain ⟨password, passwordRead⟩ := (readPassword_eq_ok_iff _).2 password
    exact ⟨_, ofHost_eq_ok_iff.2 ⟨plain, host, database, username, password, given, databaseRead,
      usernameRead, passwordRead, rfl⟩⟩

/-- What the endpoint at a socket is put together from. -/
theorem ofSocket_eq_ok_iff {url : Url} {endpoint : Endpoint} :
    ofSocket url = .ok endpoint ↔ url.path.head? = some '/' ∧
      (∀ host, url.host? = some host → host = .domain "localhost".toList) ∧
      ∃ database, readQueryDatabase (queryValue? url "db") = .ok database ∧
        endpoint = .socket (Percent.decode url.path) database (queryValue? url "user")
          (queryValue? url "pass") := by
  have local? : (url.host?.isSome ∧ url.host? ≠ some (.domain "localhost".toList)) ↔
      ¬ ∀ host, url.host? = some host → host = .domain "localhost".toList := by
    cases url.host? <;> simp
  rw [ofSocket]
  dsimp only
  constructor
  · intro ok
    split_ifs at ok with misplaced
    · cases ok
    · obtain ⟨database, databaseRead, ok⟩ := bind_eq_ok.1 ok
      cases ok
      rw [local?, not_or, not_not, not_not] at misplaced
      exact ⟨misplaced.1, misplaced.2, database, databaseRead, rfl⟩
  · rintro ⟨path, host, database, databaseRead, rfl⟩
    rw [if_neg (by rw [local?, not_or, not_not, not_not]; exact ⟨path, host⟩), databaseRead]
    rfl

theorem exists_ofSocket_iff (url : Url) :
    (∃ endpoint, ofSocket url = .ok endpoint) ↔ SocketUsable url := by
  constructor
  · rintro ⟨endpoint, ok⟩
    obtain ⟨path, host, database, databaseRead, -⟩ := ofSocket_eq_ok_iff.1 ok
    exact ⟨path, host, (readQueryDatabase_eq_ok_iff _).1 ⟨database, databaseRead⟩⟩
  · rintro ⟨path, host, database⟩
    obtain ⟨database, databaseRead⟩ := (readQueryDatabase_eq_ok_iff _).2 database
    exact ⟨_, ofSocket_eq_ok_iff.2 ⟨path, host, database, databaseRead, rfl⟩⟩

/-- An address leads to a store exactly when it gives a client what it needs. -/
theorem ofUrl_eq_ok_iff (url : Url) : (∃ endpoint, ofUrl url = .ok endpoint) ↔ Usable url := by
  rw [ofUrl, Usable]
  split_ifs
  · exact exists_ofSocket_iff url
  · exact exists_ofHost_iff url

/-- The password with which a client signs in at a host is the one of the address. -/
theorem password_of_ofUrl {url : Url} {host : Host} {port : Nat} {database : Int}
    {username : Option String} {password : String}
    (leads : ofUrl url = .ok (.tcp host port database username (some password))) :
    ∃ written, url.password? = some written ∧
      Percent.utf8? (Percent.decode written) = some password := by
  rw [ofUrl] at leads
  split_ifs at leads with atSocket
  · obtain ⟨-, -, _, -, other⟩ := ofSocket_eq_ok_iff.1 leads
    cases other
  · obtain ⟨-, _, _, _, secret, -, -, -, passwordRead, same⟩ := ofHost_eq_ok_iff.1 leads
    cases same
    exact readPassword_eq_some_iff.1 passwordRead

end CompletionCache.Endpoint
