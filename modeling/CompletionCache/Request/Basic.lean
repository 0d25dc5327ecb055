import CompletionCache.Request.Message
import CompletionCache.Request.Tool

/-!
# Completion requests

A request is the model, the messages and the parameters that decide the completion, and a flag that
says whether the answer is streamed, which decides nothing about its content. `Request.ofJson` reads
the form that `Request.toJson` writes.
-/

set_option autoImplicit false

namespace CompletionCache

open Json (Mismatch)

/-- A request for a completion. -/
structure Request where
  model : String
  messages : List Message
  temperature : Option Binary64
  maxTokens : Option UInt32
  topP : Option Binary64
  tools : Option (List Tool)
  responseFormat : Option Json
  stream : Bool
  deriving DecidableEq

namespace Request

/-- A request that sets no parameter. -/
def ofMessages (model : String) (messages : List Message) : Request :=
  ⟨model, messages, none, none, none, none, none, false⟩

/-- The request without a model and messages. -/
def empty : Request := ofMessages "" []

/-- The fields of a request; other members are passed over. -/
def layout : Json.Layout where
  type := "CacheableRequest"
  fields := [Json.fieldOf "model" Json.readText,
    Json.fieldOf "messages" (Json.readList Message.ofJson),
    Json.fieldOf "temperature" (Json.readOption Json.readBinary64),
    Json.fieldOf "max_tokens" (Json.readOption Json.readUInt32),
    Json.fieldOf "top_p" (Json.readOption Json.readBinary64),
    Json.fieldOf "tools" (Json.readOption (Json.readList Tool.ofJson)),
    Json.fieldOf "response_format" (Json.readOption Json.readAny),
    Json.fieldOf "stream" Json.readBool]
  others := .ignored

/-- The request that a document writes. -/
def ofJson (v : Json) : Except Mismatch Request := do
  let record ← layout.record v
  let model ← record.field "model" Json.readText
  let messages ← record.field "messages" (Json.readList Message.ofJson)
  let temperature ← record.field? "temperature" (Json.readOption Json.readBinary64)
  let maxTokens ← record.field? "max_tokens" (Json.readOption Json.readUInt32)
  let topP ← record.field? "top_p" (Json.readOption Json.readBinary64)
  let tools ← record.field? "tools" (Json.readOption (Json.readList Tool.ofJson))
  let responseFormat ← record.field? "response_format" (Json.readOption Json.readAny)
  let stream ← record.field? "stream" Json.readBool
  record.close
  return ⟨model, messages, temperature.join, maxTokens.join, topP.join, tools.join,
    responseFormat.join, stream.getD false⟩

/-- A request as a document: the parameters that are set, between the messages and the flag. -/
def toJson (request : Request) : Json :=
  .object (("model", .string request.model) ::
    ("messages", .array (request.messages.map Message.toJson)) ::
    Json.optionalMember "temperature" Json.ofBinary64 request.temperature ++
    Json.optionalMember "max_tokens" (fun n => Json.ofNat n.toNat) request.maxTokens ++
    Json.optionalMember "top_p" Json.ofBinary64 request.topP ++
    Json.optionalMember "tools" (fun tools => .array (tools.map Tool.toJson)) request.tools ++
    Json.optionalMember "response_format" id request.responseFormat ++
    [("stream", .bool request.stream)])

end Request

end CompletionCache
