import CompletionCache.Error
import CompletionCache.Request.Basic

/-!
# Requests from the bodies that clients send

`Request.ofBody` reads a body as clients send it: the token limit and the tools have a second
spelling each, null stands for an absent parameter, and members that do not decide the completion
are passed over. Parameters are checked one by one, so each fault names its member.
-/

set_option autoImplicit false

namespace CompletionCache

/-- What is wrong with a body. -/
inductive BodyFault where
  /-- The body has no model, or one that is not a text. -/
  | missingModel
  /-- A parameter does not have the type it must have. -/
  | mistyped (name expected : String) (got : Json)
  /-- A token limit does not fit 32 bits. -/
  | limitOutOfRange (name : String) (limit : Int)
  /-- The messages or the tools do not have their shape. -/
  | shape (mismatch : Json.Mismatch)
  deriving DecidableEq

/-- The path of a member of a body. -/
def bodyPath (name : String) : String := "request." ++ name

/-- The error that a fault is shown as. -/
def BodyFault.error : BodyFault → Error
  | missingModel =>
    .failure .validation "request is missing a string `model`"
      ⟨some (bodyPath "model"), none, some "cacheable_request"⟩
  | mistyped name expected got =>
    .failure .validation ("`" ++ name ++ "` must be " ++ expected)
      ⟨some (bodyPath name), some ("got " ++ got.text), some "cacheable_request"⟩
  | limitOutOfRange name limit =>
    .failure .validation "token limit out of range"
      ⟨some (bodyPath name), some (toString limit ++ " exceeds 4294967295"),
        some "cacheable_request"⟩
  | shape mismatch => .serialization mismatch

namespace Request

/-- The value of a member that is there and not null. -/
def present? (body : Json) (name : String) : Option Json :=
  (body.member? name).filter (· ≠ .null)

/-- A parameter that is a number. -/
def bodyNumber (body : Json) (name : String) : Except BodyFault (Option Binary64) :=
  match present? body name with
  | none => .ok none
  | some value =>
    match value.binary64? with
    | some number => .ok (some number)
    | none => .error (.mistyped name "a number" value)

/-- The value of a token limit. -/
def tokenLimit (name : String) (value : Json) : Except BodyFault UInt32 :=
  match value.integer? with
  | some limit =>
    if limit < 0 then .error (.mistyped name "a non-negative integer" value)
    else if UInt32.size ≤ limit then .error (.limitOutOfRange name limit)
    else .ok (.ofNat limit.toNat)
  | none => .error (.mistyped name "a non-negative integer" value)

/-- The token limit, under its own name or else under its second one. -/
def bodyTokenLimit (body : Json) : Except BodyFault (Option UInt32) :=
  match present? body "max_tokens", present? body "max_completion_tokens" with
  | some value, _ => some <$> tokenLimit "max_tokens" value
  | none, some value => some <$> tokenLimit "max_completion_tokens" value
  | none, none => .ok none

/-- The messages; a body without them has none. -/
def bodyMessages (body : Json) : Except BodyFault (List Message) :=
  match body.member? "messages" with
  | some value => (Json.readList Message.ofJson value).mapError .shape
  | none => .ok []

/-- The tools, or else the functions as tools. -/
def bodyTools (body : Json) : Except BodyFault (Option (List Tool)) :=
  match present? body "tools", present? body "functions" with
  | some value, _ => (some <$> Json.readList Tool.ofJson value).mapError .shape
  | none, some value =>
    ((fun functions => some (functions.map Tool.ofFunction)) <$>
      Json.readList Function.ofJson value).mapError .shape
  | none, none => .ok none

/-- Whether the answer is streamed; by default it is not. -/
def bodyStream (body : Json) : Except BodyFault Bool :=
  match present? body "stream" with
  | some (.bool value) => .ok value
  | some value => .error (.mistyped "stream" "a boolean" value)
  | none => .ok false

/-- The request that a body writes. -/
def ofBody (body : Json) : Except BodyFault Request := do
  let some model := (body.member? "model").bind Json.string?
    | throw .missingModel
  let messages ← bodyMessages body
  let maxTokens ← bodyTokenLimit body
  let tools ← bodyTools body
  let temperature ← bodyNumber body "temperature"
  let topP ← bodyNumber body "top_p"
  let stream ← bodyStream body
  return ⟨model, messages, temperature, maxTokens, topP, tools, present? body "response_format",
    stream⟩

end Request

end CompletionCache
