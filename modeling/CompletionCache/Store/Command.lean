import CompletionCache.Json.Mismatch
import CompletionCache.Positional
import CompletionCache.Time

/-!
# Commands to a store

A `Store` is anything that may be connected to and answers commands, with a state of its own;
nothing is promised of its answers. A `Reply` is read as what a command wants, or the command has
failed. A command fails also when the store says so or the connection breaks.
-/

set_option autoImplicit false

namespace CompletionCache

/-- A command to a store. -/
inductive Command where
  | get (key : String)
  | put (key value : String) (seconds : UInt64)
  | delete (keys : List String)
  | timeToLive (key : String)
  | scan (cursor : UInt64) (pattern : String) (count : Nat)
  | ping
  deriving DecidableEq

/-- What a store answers. -/
inductive Reply where
  | nil
  | integer (value : Int)
  | text (value : String)
  | binary (bytes : List UInt8)
  | list (items : List Reply)
  | error (code : String) (detail : Option String)

/-- Why a command failed. -/
inductive CommandFault where
  /-- The store refused the command. -/
  | refused (code : String) (detail : Option String)
  /-- The reply has another form than the command wants. -/
  | wrongReply (reason : String) (shown : String)
  /-- The reply is a text in no known encoding. -/
  | notUtf8
  /-- The connection broke, for a reason of its own. -/
  | disconnected (reason : String)
  deriving DecidableEq

/-- How an attempt to connect ended. -/
inductive Attempt where
  | connected
  | failed (fault : CommandFault)
  | timedOut
  deriving DecidableEq

/-- A store with states `σ`. `waited` is the time for which it has kept its callers waiting so
far. -/
structure Store (σ : Type) where
  connect : (timeout : Duration) → StateM σ Attempt
  answer : Command → StateM σ (Except CommandFault Reply)
  waited : σ → Duration

/-- A store that is out of reach: every attempt to connect times out. -/
def Store.unreachable (σ : Type) : Store σ where
  connect _ := return .timedOut
  answer _ := return .error (.disconnected "not connected")
  waited _ := 0

/-! ## Wording -/

/-- The name of a kind of refusal. -/
def refusalName? : String → Option String
  | "ERR" => some "ResponseError"
  | "EXECABORT" => some "ExecAbortError"
  | "LOADING" => some "BusyLoadingError"
  | "NOSCRIPT" => some "NoScriptError"
  | "MOVED" => some "Moved"
  | "ASK" => some "Ask"
  | "TRYAGAIN" => some "TryAgain"
  | "CLUSTERDOWN" => some "ClusterDown"
  | "CROSSSLOT" => some "CrossSlot"
  | "MASTERDOWN" => some "MasterDown"
  | "READONLY" => some "ReadOnly"
  | "NOTBUSY" => some "NotBusy"
  | _ => none

mutual
/-- A reply as messages show it. -/
def Reply.shown : Reply → String
  | nil => "nil"
  | integer value => "int(" ++ toString value ++ ")"
  | text value => "string-data('" ++ Json.shown value ++ "')"
  | binary bytes =>
    "binary-data([" ++ ", ".intercalate (bytes.map fun b => toString b.toNat) ++ "])"
  | list items => "bulk(" ++ ", ".intercalate (shownItems items) ++ ")"
  | error code detail => code ++ ((detail.map fun text => " " ++ text).getD "")

@[inherit_doc Reply.shown]
def Reply.shownItems : List Reply → List String
  | [] => []
  | item :: rest => item.shown :: shownItems rest
end

/-- The words of a fault. -/
def CommandFault.message : CommandFault → String
  | refused code detail =>
    match refusalName? code, detail with
    | some name, some text => "An error was signalled by the server - " ++ name ++ ": " ++ text
    | some name, none => "An error was signalled by the server- " ++ name
    | none, some text => code ++ ": " ++ text
    | none, none => code ++ ": Unknown extension error encountered"
  | wrongReply reason shown =>
    "Response was of incompatible type - TypeError: " ++ Json.shown reason ++ " (response was " ++
      shown ++ ")"
  | notUtf8 => "Cannot convert from UTF-8- TypeError"
  | disconnected reason => reason

/-! ## Reading replies -/

namespace Reply

/-- The fault of a reply that has the wrong form. -/
def wrong {α : Type} (reply : Reply) (reason : String) : Except CommandFault α :=
  .error (.wrongReply reason reply.shown)

/-- A text. -/
def readText : Reply → Except CommandFault String
  | text value => .ok value
  | binary _ => .error .notUtf8
  | error code detail => .error (.refused code detail)
  | reply => reply.wrong "Response type not string compatible."

/-- A text, or nothing. -/
def readOptionalText : Reply → Except CommandFault (Option String)
  | nil => .ok none
  | reply => some <$> reply.readText

/-- A number that is written in a reply, by itself or as what `parse?` makes of a text. -/
def readNumber (parse? : List Char → Option Int) : Reply → Except CommandFault Int
  | integer value => .ok value
  | text value =>
    match parse? value.toList with
    | some number => .ok number
    | none => (text value).wrong "Could not convert from string."
  | binary _ => .error .notUtf8
  | error code detail => .error (.refused code detail)
  | reply => reply.wrong "Response type not convertible to numeric."

/-- A number with a sign. -/
def readInteger (reply : Reply) : Except CommandFault Int := reply.readNumber Positional.int64?

/-- A number of 64 bits without a sign; a negative one counts from the other end of their range. -/
def readCount (reply : Reply) : Except CommandFault UInt64 :=
  (fun value => UInt64.ofNat (value % 0x10000000000000000).toNat) <$> reply.readNumber fun digits =>
    ((Positional.readUInt64 digits).toOption).map fun number => number.toNat

/-- A list of texts. -/
def readTexts : Reply → Except CommandFault (List String)
  | nil => .ok []
  | list items => items.mapM readText
  | error code detail => .error (.refused code detail)
  | reply => reply.wrong "Response type not vector compatible."

/-- A page of a scan: where the next one starts, zero behind the last, and the keys found. -/
def readPage : Reply → Except CommandFault (UInt64 × List String)
  | list [cursor, keys] => do
    let next ← cursor.readCount
    return (next, ← keys.readTexts)
  | list items => (list items).wrong "Bulk response of wrong dimension"
  | error code detail => .error (.refused code detail)
  | reply => reply.wrong "Not a bulk response"

/-- Any reply that is no error. -/
def readDone : Reply → Except CommandFault Unit
  | error code detail => .error (.refused code detail)
  | _ => .ok ()

end Reply

end CompletionCache
