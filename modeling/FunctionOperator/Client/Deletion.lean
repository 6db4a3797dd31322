import FunctionOperator.Client.Collection

/-!
# Deletions

The server answers a deletion with a report of it or with the object that is about to go.
-/

namespace FunctionOperator

/-- One cause in a report. -/
structure ReportCause where
  /-- Why, in one word. -/
  reason : String := ""
  /-- Why. -/
  message : String := ""
  /-- Which field. -/
  field : String := ""

/-- The details of a report. -/
structure ReportDetails where
  /-- The name of the object. -/
  name : String := ""
  /-- Its API group. -/
  group : String := ""
  /-- Its kind. -/
  kind : String := ""
  /-- Its identity. -/
  uid : String := ""
  /-- The causes. -/
  causes : List ReportCause := []
  /-- When to try again. -/
  retryAfterSeconds : Nat := 0

/-- What the server reports about a request. -/
structure Report where
  /-- Whether the request succeeded. -/
  succeeded : Option Bool := none
  /-- The status. -/
  code : Nat := 0
  /-- What happened. -/
  message : String := ""
  /-- Why, in one word. -/
  reason : String := ""
  /-- The details. -/
  details : Option ReportDetails := none

namespace Report

/-- The codec of causes. -/
def causeCodec : Codec ReportCause :=
  (⟨{}, [
    .defaulted "reason" .string (·.reason) fun v r => { r with reason := v },
    .defaulted "message" .string (·.message) fun v r => { r with message := v },
    .defaulted "field" .string (·.field) fun v r => { r with field := v }]⟩ :
    Record ReportCause).closed

/-- The codec of details. -/
def detailsCodec : Codec ReportDetails :=
  (⟨{}, [
    .defaulted "name" .string (·.name) fun v r => { r with name := v },
    .defaulted "group" .string (·.group) fun v r => { r with group := v },
    .defaulted "kind" .string (·.kind) fun v r => { r with kind := v },
    .defaulted "uid" .string (·.uid) fun v r => { r with uid := v },
    .defaulted "causes" causeCodec.list (·.causes) fun v r => { r with causes := v },
    .defaulted "retryAfterSeconds" .nat32 (·.retryAfterSeconds)
      fun v r => { r with retryAfterSeconds := v }]⟩ : Record ReportDetails).closed

/-- The codec of the two words for success and failure. -/
def summaryCodec : Codec Bool := .choice [("Success", true), ("Failure", false)]

/-- The fields of a report. -/
def record : Record Report where
  blank := {}
  fields := [
    .optional "status" summaryCodec (·.succeeded) fun v r => { r with succeeded := v },
    .defaulted "code" .nat16 (·.code) fun v r => { r with code := v },
    .defaulted "message" .string (·.message) fun v r => { r with message := v },
    .defaulted "reason" .string (·.reason) fun v r => { r with reason := v },
    .optional "details" detailsCodec (·.details) fun v r => { r with details := v }]

/-- The codec of reports. -/
def codec : Codec Report := record.closed

end Report

namespace Collection

variable {α : Type}

/-- Checks the answer to a deletion: a document that calls itself a report has to be one, and
any other has to be an object of the collection. -/
def checkDeleted (collection : Collection α) (body : String) : Except ApiFailure Unit := do
  let document ← Reply.parse body Codec.json.read
  match document.get? "kind" with
  | some (.string "Status") =>
    let _ ← Reply.parse body Report.codec.read
  | _ =>
    let _ ← Reply.parse body collection.codec.read

/-- Deletes the object of a name. -/
def delete (collection : Collection α) (space name : String) : ApiCall Unit where
  request := (collection.objectPath? space name).bind fun path =>
    ApiRequest.to? "DELETE" path (some (ApiRequest.jsonType, .object []))
  receive reply :=
    if reply.refuses then .error (.refused reply.refusal)
    else collection.checkDeleted reply.body

end Collection

end FunctionOperator
