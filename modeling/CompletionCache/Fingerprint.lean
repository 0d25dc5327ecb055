import CompletionCache.Request.Body
import CompletionCache.Sha256

/-!
# Fingerprints of requests

The canonical form of a request holds the fields that decide the completion, with the members of all
objects sorted by name, and leaves out parameters that are not set and the flag that asks for a
stream. The fingerprint is the hash of its text, with the model kept beside it.
-/

set_option autoImplicit false

namespace CompletionCache

open Json (Mismatch)

namespace Request

/-- The document of all that decides the completion, in its normal form. -/
def canonicalForm (request : Request) : Json :=
  Json.normalize (.object (("model", .string request.model) ::
    ("messages", .array (request.messages.map Message.toJson)) ::
    Json.optionalMember "temperature" Json.ofBinary64 request.temperature ++
    Json.optionalMember "max_tokens" (fun n => Json.ofNat n.toNat) request.maxTokens ++
    Json.optionalMember "top_p" Json.ofBinary64 request.topP ++
    Json.optionalMember "tools" (fun tools => .array (tools.map Tool.toJson)) request.tools ++
    Json.optionalMember "response_format" id request.responseFormat))

/-- The text of the canonical form. -/
def canonicalText (request : Request) : String := request.canonicalForm.text

end Request

/-- The first eight bytes of a text, or all of it when it is shorter or its ninth byte lies inside a
character. -/
def shortText (s : String) : String :=
  let rec taken : (missing : Nat) → List Char → Option (List Char)
    | 0, _ => some []
    | _ + 1, [] => none
    | missing + 1, c :: rest =>
      if c.utf8Size ≤ missing + 1 then (c :: ·) <$> taken (missing + 1 - c.utf8Size) rest else none
  match taken 8 s.toList with
  | some first => String.ofList first
  | none => s

/-- The name under which a completion is kept. -/
structure Fingerprint where
  hash : String
  model : Option String
  deriving DecidableEq

namespace Fingerprint

/-- A fingerprint without a model. -/
def ofHash (hash : String) : Fingerprint := ⟨hash, none⟩

/-- The fingerprint with a model in the place of its own. -/
def withModel (fingerprint : Fingerprint) (model : String) : Fingerprint :=
  { fingerprint with model := some model }

/-- The short form for reports. -/
def short (fingerprint : Fingerprint) : String := shortText fingerprint.hash

/-- The fields of a fingerprint. -/
def layout : Json.Layout where
  type := "CacheKey"
  fields := [Json.fieldOf "hash" Json.readText,
    Json.fieldOf "model" (Json.readOption Json.readText)]
  others := .ignored

/-- The fingerprint that a document writes. -/
def ofJson (v : Json) : Except Mismatch Fingerprint := do
  let record ← layout.record v
  let hash ← record.field "hash" Json.readText
  let model ← record.nullable "model" Json.readText
  record.close
  return ⟨hash, model⟩

/-- A fingerprint as a document. -/
def toJson (fingerprint : Fingerprint) : Json :=
  .object [("hash", .string fingerprint.hash), ("model", Json.ofOption .string fingerprint.model)]

end Fingerprint

/-- The fingerprint of a request. -/
def Request.fingerprint (request : Request) : Fingerprint :=
  ⟨Sha256.hexDigest request.canonicalText, some request.model⟩

end CompletionCache
