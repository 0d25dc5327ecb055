import CompletionCache.Config.Basic
import CompletionCache.Response

/-!
# Cached entries

An entry keeps a response with its key, the model and the count of tokens, from the instant it was
made to the instant it expires. `Entry.create` never lets an entry expire before it was made: a
lifetime that runs past the end of the clock is cut to the longest one allowed, or to nothing.
-/

set_option autoImplicit false

namespace CompletionCache

open Json (Mismatch)

/-- A cached response. -/
structure Entry where
  key : String
  response : Response
  createdAt : Instant
  expiresAt : Instant
  model : String
  tokens : UInt64
  deriving DecidableEq

namespace Entry

/-- When an entry made now with a lifetime expires. -/
def expiry (now : Instant) (ttl : Duration) : Instant :=
  ((Instant.addWithin? now ttl).or
    (Instant.addWithin? now (Duration.ofSeconds Config.maxTtl.toNat))).getD now

/-- The entry made now for a key. -/
def create (now : Instant) (key : String) (response : Response) (model : String) (tokens : UInt64)
    (ttl : Duration) : Entry :=
  ⟨key, response, now, expiry now ttl, model, tokens⟩

/-- Whether the entry has expired at an instant. -/
def isExpiredAt (entry : Entry) (now : Instant) : Bool := decide (entry.expiresAt ≤ now)

/-- How long the entry still lives. -/
def remaining (entry : Entry) (now : Instant) : Duration := Instant.remaining entry.expiresAt now

/-! ## Documents -/

/-- The instant that a document writes as seconds since the epoch. -/
def readInstant (v : Json) : Except Mismatch Instant := do
  let seconds ← Json.readBinary64 v
  if !seconds.isFinite || (seconds.isNegative && seconds.magnitude != 0) then
    throw (.invalidTimestamp seconds)
  match Instant.ofSeconds? seconds with
  | some instant => return instant
  | none => throw (.timestampOutOfRange seconds)

/-- The fields of an entry; other members are passed over. -/
def layout : Json.Layout where
  type := "CacheEntry"
  fields := [Json.fieldOf "key" Json.readText, Json.fieldOf "response" Response.ofJson,
    Json.fieldOf "created_at" readInstant, Json.fieldOf "expires_at" readInstant,
    Json.fieldOf "model" Json.readText, Json.fieldOf "tokens" Json.readUInt64]
  others := .ignored

/-- The entry that a document writes. -/
def ofJson (v : Json) : Except Mismatch Entry := do
  let record ← layout.record v
  let key ← record.field "key" Json.readText
  let response ← record.field "response" Response.ofJson
  let createdAt ← record.field "created_at" readInstant
  let expiresAt ← record.field "expires_at" readInstant
  let model ← record.field "model" Json.readText
  let tokens ← record.field "tokens" Json.readUInt64
  record.close
  return ⟨key, response, createdAt, expiresAt, model, tokens⟩

/-- Reads the text of an entry. -/
def reader : Json.ValueReader := layout.reader [("response", Response.reader)]

/-- The entry that a text writes, if it writes one. -/
def ofText? (text : String) : Option Entry := do
  let document ← (Json.readAll reader text.toList).toOption
  (ofJson document).toOption

/-- An entry as a document. -/
def toJson (entry : Entry) : Json :=
  .object [("key", .string entry.key), ("response", entry.response.toJson),
    ("created_at", .ofBinary64 (Instant.toSeconds entry.createdAt)),
    ("expires_at", .ofBinary64 (Instant.toSeconds entry.expiresAt)),
    ("model", .string entry.model), ("tokens", .ofNat entry.tokens.toNat)]

end Entry

end CompletionCache
