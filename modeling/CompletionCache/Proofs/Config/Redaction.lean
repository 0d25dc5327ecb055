import CompletionCache.Proofs.Config.Store
import CompletionCache.Proofs.SharedCache.Attempt
import CompletionCache.Proofs.Url.Password

/-!
# What reports show of an address

Addresses that differ only in the password before the host look the same in reports
(`StoreConfig.redactedUrl_hides_password`). The query is shown as it stands
(`StoreConfig.redactedUrl_shows_query`). A socket's password stands there, so it is shown
(`StoreConfig.redactedUrl_shows_socketPassword`).
-/

set_option autoImplicit false

namespace CompletionCache

open Json (bind_eq_ok mapError_eq_ok)

theorem Url.hidePassword_hidePassword (url : Url) (first shown : List Char) :
    (url.hidePassword first).hidePassword shown = url.hidePassword shown := by
  obtain ⟨scheme, authority, path, query, fragment⟩ := url
  cases authority with
  | none => rfl
  | some authority =>
    obtain ⟨username, password, host, port⟩ := authority
    cases password <;> rfl

/-! ## Health reports -/

namespace SharedCache

variable {σ : Type} (remote : Store σ) (clocks : Clocks)

/-- No attempt changes the settings of the store, whatever the store answers. -/
theorem sustained_settings (address : StoreConfig) :
    Sustained remote (fun _ => True) fun state => state.1.store = address :=
  sustained_of_bookkeeping remote (fun cache => cache.store = address) fun _ _ _ same => same

/-- A health report shows the address of the store as it is shown in reports. -/
theorem store_health (cache : SharedCache) (state : σ) :
    ((health remote clocks).run (cache, state)).1.store = some cache.store.redactedUrl := by
  have kept := (ensures_tryHealth (sustained_settings remote cache.store) trivial
    (fun _ _ _ => trivial) clocks.mono (cache, state) rfl).1
  rw [← kept]
  rfl

end SharedCache

/-! ## Redaction -/

namespace StoreConfig

/-- The addresses differ at most in the password of a user, which both of them have. -/
def SameButPassword (store other : StoreConfig) : Prop :=
  ∃ (frame : Url.Frame) (secret secret' : List Char), Url.IsSecret secret ∧ Url.IsSecret secret' ∧
    Url.cleaned store.url.toList = frame.text secret ∧
    Url.cleaned other.url.toList = frame.text secret'

theorem redactedUrl_eq_of_sameButPassword {store other : StoreConfig}
    (same : store.SameButPassword other) : store.redactedUrl = other.redactedUrl := by
  obtain ⟨frame, secret, secret', isSecret, isSecret', written, written'⟩ := same
  rw [redactedUrl, redactedUrl, parsedUrl, parsedUrl,
    frame.parse_text isSecret isSecret' written written']
  cases Url.parse other.url.toList with
  | error fault => rfl
  | ok url =>
    change String.ofList ((url.hidePassword _).hidePassword hiddenPassword).text = _
    rw [Url.hidePassword_hidePassword]

/-- The address of a store belongs to no scheme with rules of its own. -/
theorem isSpecial_of_check {store : StoreConfig} {url : Url} (checked : store.check = .ok url) :
    Url.isSpecial url.scheme = false := by
  obtain ⟨-, scheme, -⟩ := check_eq_ok_iff.1 checked
  have general : ∀ scheme ∈ Endpoint.schemes, Url.isSpecial scheme = false := by decide
  exact general url.scheme scheme

/-- The password with which a client signs in at a host stands in the address. -/
theorem exists_frame_of_endpoint {store : StoreConfig} {host : Host} {port : Nat} {database : Int}
    {username : Option String} {password : String}
    (leads : store.endpoint = .ok (.tcp host port database username (some password))) :
    ∃ (frame : Url.Frame) (secret : List Char), Url.IsSecret secret ∧
      Url.cleaned store.url.toList = frame.text secret ∧
      Percent.utf8? (Percent.decode (Percent.encode Percent.inUserinfo secret)) = some password := by
  obtain ⟨url, checked, leads⟩ := bind_eq_ok.1 leads
  obtain ⟨written, signed, decoded⟩ := Endpoint.password_of_ofUrl (mapError_eq_ok.1 leads)
  obtain ⟨frame, secret, isSecret, cleanText, rfl⟩ :=
    Url.Frame.exists_of_parse (isSpecial_of_check checked) (check_eq_ok_iff.1 checked).1 signed
  exact ⟨frame, secret, isSecret, cleanText, decoded⟩

/-- Addresses that differ at most in the password of a user are shown alike, and reports of health show
nothing else of them. Every password with which a client signs in at a host is such a one. -/
theorem redactedUrl_hides_password (store other : StoreConfig) :
    (store.SameButPassword other → store.redactedUrl = other.redactedUrl) ∧
    (∀ (σ : Type) (remote : Store σ) (clocks : Clocks) (cache : SharedCache) (state : σ),
      cache.store = store →
      ((SharedCache.health remote clocks).run (cache, state)).1.store = some store.redactedUrl) ∧
    ∀ (host : Host) (port : Nat) (database : Int) (username : Option String) (password : String),
      store.endpoint = .ok (.tcp host port database username (some password)) →
      ∃ (frame : Url.Frame) (secret : List Char), Url.IsSecret secret ∧
        Url.cleaned store.url.toList = frame.text secret ∧
        Percent.utf8? (Percent.decode (Percent.encode Percent.inUserinfo secret)) =
          some password := by
  refine ⟨redactedUrl_eq_of_sameButPassword, ?_, fun _ _ _ _ _ => exists_frame_of_endpoint⟩
  rintro σ remote clocks cache state rfl
  exact SharedCache.store_health remote clocks cache state

/-- The address of a store on this machine, for a user with a password. -/
def signedIn (secret : String) : StoreConfig := .ofUrl ("redis://ada:" ++ secret ++ "@localhost/1")

/-- What stands around the password of such an address. -/
def signedInFrame : Url.Frame where
  scheme := "redis".toList
  user := "ada".toList
  host := "localhost/1".toList
  isScheme := ⟨by decide, by decide⟩
  isGeneral := by decide
  user_free := by decide
  user_plain := by decide
  host_free := by decide

/-- Two addresses with different passwords, one of them with marks of its own, are shown alike. -/
theorem redactedUrl_signedIn :
    (signedIn "alpha").redactedUrl = (signedIn "b@t:a").redactedUrl ∧
      ∃ (frame : Url.Frame) (secret : List Char), Url.IsSecret secret ∧
        Url.cleaned (signedIn "alpha").url.toList = frame.text secret ∧
        Percent.utf8? (Percent.decode (Percent.encode Percent.inUserinfo secret)) =
          some "alpha" := by
  obtain ⟨alike, -, covered⟩ := redactedUrl_hides_password (signedIn "alpha") (signedIn "b@t:a")
  have same : (signedIn "alpha").SameButPassword (signedIn "b@t:a") :=
    ⟨signedInFrame, "alpha".toList, "b@t:a".toList, ⟨by decide, by decide⟩, ⟨by decide, by decide⟩,
      by decide +kernel, by decide +kernel⟩
  have leads : (signedIn "alpha").endpoint =
      .ok (.tcp (.domain "localhost".toList) 6379 1 (some "ada") (some "alpha")) := by decide +kernel
  exact ⟨alike same, covered _ _ _ _ _ leads⟩

/-! ## What is shown -/

/-- The query of an address is shown as it stands. -/
theorem redactedUrl_shows_query {store : StoreConfig} {url : Url} {query : List Char}
    (parsed : store.parsedUrl = .ok url) (asked : url.query = some query) :
    ('?' :: query) <:+: store.redactedUrl.toList := by
  have kept : (url.hidePassword hiddenPassword).query = some query := asked
  rw [redactedUrl, parsed]
  dsimp only
  rw [String.toList_ofList, Url.text, kept]
  exact ⟨_, _, rfl⟩

/-- The address of a store at a socket, with a password. -/
def atSocket (secret : String) : StoreConfig := .ofUrl ("unix:///tmp/redis.sock?pass=" ++ secret)

/-- Two valid addresses of a socket that differ in the password with which a client signs in, and in
nothing else, are not shown alike. -/
theorem redactedUrl_shows_socketPassword :
    (atSocket "alpha").validate = .ok () ∧ (atSocket "beta").validate = .ok () ∧
      (∃ path, (atSocket "alpha").endpoint =
          .ok (.socket path 0 none (some "alpha".toUTF8.toList)) ∧
        (atSocket "beta").endpoint = .ok (.socket path 0 none (some "beta".toUTF8.toList))) ∧
      (atSocket "alpha").redactedUrl = "unix:///tmp/redis.sock?pass=alpha" ∧
      (atSocket "alpha").redactedUrl ≠ (atSocket "beta").redactedUrl := by
  refine ⟨by decide +kernel, by decide +kernel, ⟨"/tmp/redis.sock".toUTF8.toList, ?_, ?_⟩, ?_, ?_⟩
  · decide +kernel
  · decide +kernel
  · decide +kernel
  · decide +kernel

end StoreConfig

end CompletionCache
