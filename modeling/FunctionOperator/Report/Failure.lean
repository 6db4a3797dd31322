import FunctionOperator.Failure

/-!
# Reports of failures

The documents that show a failure: its kind, its wording and its details.
-/

namespace FunctionOperator

/-- The name of a cause. -/
def Cause.name : Cause → String
  | .malformed => "syntax"
  | .truncated => "eof"
  | .mistyped => "data"

namespace ApiFailure

/-- The details of a failed call: its variety, and what the server or the way to it tells. -/
def details : ApiFailure → List (String × Json)
  | .refused refusal => [("variant", .string "Api"), ("code", .ofNat refusal.code),
      ("reason", .string refusal.reason), ("message", .string refusal.message)]
  | .unavailable message => [("variant", .string "Service"), ("message", .string message)]
  | .undecodable => [("variant", .string "SerdeError")]
  | .unbuildable => [("variant", .string "BuildRequest")]
  | .unconfigured => [("variant", .string "InferConfig")]

/-- The report of a failed call. -/
def report (failure : ApiFailure) : Json :=
  .object (("error", .string "Kube") :: failure.details)

end ApiFailure

namespace SyncFailure

/-- The members of the report of a failed sync. -/
def details (failure : SyncFailure) : List (String × Json) :=
  let kind (name : String) := ("error", Json.string name)
  let message := ("message", Json.string failure.message)
  match failure with
  | .invalidKey _ => [kind "InvalidKey", message]
  | .corruptSnapshot key cause => [kind "CorruptSnapshot", ("annotation", .string key),
      ("category", .string cause.name)]
  | .rename .. => [kind "Rename", message]
  | .resourceExists .. => [kind "ResourceExists", message]
  | .encode cause => [kind "Encode", ("category", .string cause.name)]
  | .api call =>
    kind "Kube" :: (call.details.filter fun detail => detail.1 != "message") ++ [message]

/-- The report of a failed sync. -/
def report (failure : SyncFailure) : Json := .object failure.details

end SyncFailure

namespace OperatorFailure

/-- The report of a failure of the operator. -/
def report (failure : OperatorFailure) : Json :=
  let named (kind : String) : Json :=
    .object [("error", .string kind), ("message", .string failure.message)]
  match failure with
  | .api call => call.report
  | .invalidConfig _ => named "InvalidConfig"
  | .watch _ => named "Watch"
  | .discovery _ => named "Discovery"
  | .server _ => named "Server"
  | .metrics _ => named "Metrics"

end OperatorFailure

end FunctionOperator
