import FunctionOperator.Failure
import FunctionOperator.Json.Codec
import FunctionOperator.Json.Reader
import FunctionOperator.Text.Target

/-!
# Requests to the cluster's API

A call is a request and a reading of the reply. Read `ApiCall.run` and `Reply.decode` first: a
refusal fails the call, and so does an answer that is not of the wanted type. How requests travel
is left to a `Transport`.
-/

namespace FunctionOperator

/-- A request. -/
structure ApiRequest where
  /-- The method. -/
  method : String
  /-- The path. -/
  path : String
  /-- The query, which may be empty. -/
  query : String := ""
  /-- The type and the content of the body, if there is one. -/
  body : Option (String × Json) := none

namespace ApiRequest

/-- The request to a target; none if the target is no target. The target of a request that changes
something ends in its parameters, of which there are none. -/
def to? (method target : String) (body : Option (String × Json) := none) : Option ApiRequest := do
  let whole := if method = "GET" then target else target ++ "?"
  if Text.Target.mostBytes < whole.utf8ByteSize then none
  let (path, query) ← Text.Target.leadingParts? whole.toList
  return ⟨method, String.ofList path, String.ofList query, body⟩

/-- The type of plain documents. -/
def jsonType : String := "application/json"

/-- The type of documents that are merged into stored ones. -/
def mergeType : String := "application/merge-patch+json"

end ApiRequest

/-- What the server sends back. -/
structure Reply where
  /-- The status. -/
  status : Nat
  /-- The body. -/
  body : String

namespace Refusal

/-- The fields of a refusal. -/
def record : Record Refusal where
  blank := {}
  fields := [
    .required "status" .string (·.status) fun v r => { r with status := v },
    .defaulted "message" .string (·.message) fun v r => { r with message := v },
    .defaulted "reason" .string (·.reason) fun v r => { r with reason := v },
    .required "code" .nat16 (·.code) fun v r => { r with code := v }]

/-- The codec of refusals. -/
def codec : Codec Refusal := record.closed

end Refusal

namespace Reply

/-- Whether a reply refuses the request. -/
def refuses (reply : Reply) : Bool := 400 ≤ reply.status && reply.status < 600

/-- The refusal that a reply tells: its body, or what can be said without it. -/
def refusal (reply : Reply) : Refusal :=
  match (Document.ofText reply.body).read Refusal.codec.read with
  | .ok refusal => refusal
  | .error _ => {
      status := toString reply.status
      message := Text.quoted reply.body
      reason := "Failed to parse error data"
      code := reply.status }

/-- The value that a body denotes. -/
def parse {α : Type} (body : String) (read : Draft → Except Cause α) : Except ApiFailure α :=
  match (Document.ofText body).read read with
  | .ok value => .ok value
  | .error _ => .error .undecodable

/-- The value that a reply brings. -/
def decode {α : Type} (reply : Reply) (read : Draft → Except Cause α) : Except ApiFailure α :=
  if reply.refuses then .error (.refused reply.refusal) else parse reply.body read

end Reply

/-- How requests reach a server and how it answers. -/
abbrev Transport (σ : Type) := ApiRequest → σ → Except ApiFailure Reply × σ

/-- A call of the API. -/
structure ApiCall (α : Type) where
  /-- The request; none if it cannot be built. -/
  request : Option ApiRequest
  /-- What the reply means. -/
  receive : Reply → Except ApiFailure α

namespace ApiCall

/-- Sends the request of a call and reads the reply. -/
def run {α σ : Type} (call : ApiCall α) (transport : Transport σ) (state : σ) :
    Except ApiFailure α × σ :=
  match call.request with
  | none => (.error .unbuildable, state)
  | some request =>
    match transport request state with
    | (.error failure, state) => (.error failure, state)
    | (.ok reply, state) => (call.receive reply, state)

/-- The call whose result is changed. -/
def map {α β : Type} (f : α → β) (call : ApiCall α) : ApiCall β where
  request := call.request
  receive reply := (call.receive reply).map f

end ApiCall

end FunctionOperator
