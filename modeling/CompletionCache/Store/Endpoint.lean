import CompletionCache.Positional
import CompletionCache.Url.Basic

/-!
# Where a store listens

An `Endpoint` is what a client needs to reach a store: a host with a port or the path of a socket,
the number of the database, and the credentials. `Endpoint.ofUrl` reads it from an address. Faults
are looked for in this order: host, encryption, database, user name, password.
-/

set_option autoImplicit false

namespace CompletionCache

/-- Where a store listens and how a client signs in. -/
inductive Endpoint where
  | tcp (host : Host) (port : Nat) (database : Int) (username password : Option String)
  | socket (path : List UInt8) (database : Int) (username password : Option (List UInt8))
  deriving DecidableEq

/-- Why an address does not lead to a store. -/
inductive EndpointFault where
  | missingHost
  | encryptionUnavailable
  | invalidDatabase
  | missingPath
  | invalidUsername
  | invalidPassword
  deriving DecidableEq

/-- The words of a fault. -/
def EndpointFault.message : EndpointFault → String
  | missingHost => "Missing hostname"
  | encryptionUnavailable => "can't connect with TLS, the feature is not enabled"
  | invalidDatabase => "Invalid database number"
  | missingPath => "Missing path"
  | invalidUsername => "Username is not valid UTF-8 string"
  | invalidPassword => "Password is not valid UTF-8 string"

namespace Endpoint

/-- The port of a store whose address names none. -/
def defaultPort : Nat := 6379

/-- The scheme of an encrypted connection. -/
def encryptedScheme : List Char := "rediss".toList

/-- The schemes of a connection to a host. -/
def tcpSchemes : List (List Char) := ["redis".toList, encryptedScheme]

/-- The schemes of a connection to a socket. -/
def socketSchemes : List (List Char) := ["redis+unix".toList, "unix".toList]

/-- The schemes of the addresses of stores. -/
def schemes : List (List Char) := tcpSchemes ++ socketSchemes

/-- The text without the slashes at its ends. -/
def trimSlashes (text : List Char) : List Char :=
  ((text.dropWhile (· == '/')).reverse.dropWhile (· == '/')).reverse

/-- The number of the database that a path names, zero if it names none. -/
def readDatabase (path : List Char) : Except EndpointFault Int :=
  if path.isEmpty then .ok 0
  else match Positional.int64? path with
    | some number => .ok number
    | none => .error .invalidDatabase

/-- The name of the user, unless it is empty. -/
def readUsername (username : List Char) : Except EndpointFault (Option String) :=
  if username.isEmpty then .ok none
  else match Percent.utf8? (Percent.decode username) with
    | some name => .ok (some name)
    | none => .error .invalidUsername

/-- The password, if there is one. -/
def readPassword : Option (List Char) → Except EndpointFault (Option String)
  | none => .ok none
  | some password =>
    match Percent.utf8? (Percent.decode password) with
    | some secret => .ok (some secret)
    | none => .error .invalidPassword

/-- The endpoint at a host. -/
def ofHost (url : Url) : Except EndpointFault Endpoint := do
  let some host := url.host?
    | throw .missingHost
  if url.scheme = encryptedScheme then throw .encryptionUnavailable
  let database ← readDatabase (trimSlashes url.path)
  let username ← readUsername url.username
  let password ← readPassword url.password?
  return .tcp host ((url.authority.bind Authority.port).getD defaultPort) database username password

/-- The names and values of a query, in bytes: parts between ampersands, each cut at its first
equals sign, a plus standing for a space. -/
def queryPairs (query : List Char) : List (List UInt8 × List UInt8) :=
  let bytes (text : List Char) : List UInt8 :=
    Percent.decode (text.map fun c => if c = '+' then ' ' else c)
  (Host.splitOn '&' query).filter (fun part => !part.isEmpty) |>.map fun part =>
    let name := part.takeWhile (· ≠ '=')
    (bytes name, bytes (part.drop (name.length + 1)))

/-- The value that a query gives a name last. -/
def queryValue? (url : Url) (name : String) : Option (List UInt8) :=
  (queryPairs (url.query.getD [])).reverse.lookup name.toUTF8.toList

/-- The number of the database that a query names, zero if it names none. -/
def readQueryDatabase : Option (List UInt8) → Except EndpointFault Int
  | none => .ok 0
  | some bytes =>
    match Positional.int64? (bytes.map fun b => Char.ofNat b.toNat) with
    | some number => .ok number
    | none => .error .invalidDatabase

/-- The endpoint at a socket. -/
def ofSocket (url : Url) : Except EndpointFault Endpoint := do
  let host := url.host?
  if url.path.head? ≠ some '/' ∨ (host.isSome ∧ host ≠ some (.domain "localhost".toList)) then
    throw .missingPath
  let database ← readQueryDatabase (queryValue? url "db")
  return .socket (Percent.decode url.path) database (queryValue? url "user")
    (queryValue? url "pass")

/-- The endpoint that an address leads to. -/
def ofUrl (url : Url) : Except EndpointFault Endpoint :=
  if socketSchemes.contains url.scheme then ofSocket url else ofHost url

end Endpoint

end CompletionCache
