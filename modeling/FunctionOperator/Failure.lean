import FunctionOperator.Json.Draft
import FunctionOperator.Text.Quoted

/-!
# Failures

What can go wrong, as causes: a call to the cluster's API, the sync of one key, and the start or
the run of the whole operator. Each has one function for its wording.
-/

namespace FunctionOperator

/-- The answer with which the API server refuses a request. -/
structure Refusal where
  /-- Success or failure. -/
  status : String := ""
  /-- What happened. -/
  message : String := ""
  /-- Why, in one word. -/
  reason : String := ""
  /-- The HTTP status. -/
  code : Nat := 0
deriving DecidableEq, Inhabited

/-- Why a call to the cluster's API failed. -/
inductive ApiFailure where
  /-- The server refused the request. -/
  | refused (refusal : Refusal)
  /-- The request did not reach a server that answers. -/
  | unavailable (message : String)
  /-- The answer is not of the wanted type. -/
  | undecodable
  /-- The request cannot be built. -/
  | unbuildable
  /-- There is no configuration of the cluster. -/
  | unconfigured
deriving DecidableEq

/-- The wording of a failed call. -/
def ApiFailure.message : ApiFailure → String
  | .refused refusal =>
    "ApiError: " ++ refusal.message ++ ": " ++ refusal.reason ++
      " (ErrorResponse \x7b status: " ++ Text.quoted refusal.status ++
      ", message: " ++ Text.quoted refusal.message ++
      ", reason: " ++ Text.quoted refusal.reason ++
      ", code: " ++ toString refusal.code ++ " \x7d)"
  | .unavailable message => "ServiceError: " ++ message
  | .undecodable => "Error deserializing response"
  | .unbuildable => "Failed to build request"
  | .unconfigured => "Error inferring configuration"

/-- Why the sync of a key failed. -/
inductive SyncFailure where
  /-- The key does not name an object. -/
  | invalidKey (key : String)
  /-- The recorded state of a derived object cannot be read. -/
  | corruptSnapshot (key : String) (cause : Cause)
  /-- A derived object was made for an object of another name. -/
  | rename (previous current : String)
  /-- An object of the derived object's name is controlled by something else. -/
  | resourceExists (name ownerKind owner : String)
  /-- The desired state cannot be written down. -/
  | encode (cause : Cause)
  /-- A call to the API failed. -/
  | api (failure : ApiFailure)
deriving DecidableEq

namespace SyncFailure

/-- Whether the same sync may succeed later on its own: only failed calls pass. -/
def retriable : SyncFailure → Bool
  | .api _ => true
  | _ => false

/-- The reason that an event gives for a failure. -/
def reason : SyncFailure → String
  | .invalidKey _ => "InvalidKey"
  | .corruptSnapshot .. => "SnapshotCorrupt"
  | .rename .. => "RenameRejected"
  | .resourceExists .. => "ErrResourceExists"
  | .encode _ => "EncodeFailed"
  | .api _ => "SyncFailed"

/-- The wording of a failed sync; that of a failed reading or writing leaves its cause out. -/
def message : SyncFailure → String
  | .invalidKey key => "invalid resource key: " ++ key
  | .corruptSnapshot key _ => "unable to unmarshal from field " ++ key
  | .rename previous current => "cannot rename object from " ++ previous ++ " to " ++ current
  | .resourceExists name ownerKind owner =>
    "Resource " ++ name ++ " already exists and is not managed by " ++ ownerKind ++ " " ++ owner
  | .encode _ => "cannot encode desired state"
  | .api failure => "Kubernetes error: " ++ failure.message

end SyncFailure

/-- Why the operator cannot start or go on. -/
inductive OperatorFailure where
  /-- A call to the API failed. -/
  | api (failure : ApiFailure)
  /-- A setting is not admitted. -/
  | invalidConfig (message : String)
  /-- A cache will never be complete. -/
  | watch (message : String)
  /-- The cluster serves no usable API for ingresses. -/
  | discovery (message : String)
  /-- The admin server cannot run. -/
  | server (message : String)
  /-- The metrics cannot be kept. -/
  | metrics (message : String)
deriving DecidableEq

namespace OperatorFailure

/-- The wording of a failure of the operator. -/
def message : OperatorFailure → String
  | .api failure => "Kubernetes error: " ++ failure.message
  | .invalidConfig message => "Invalid configuration: " ++ message
  | .watch message => "Resource watch failed: " ++ message
  | .discovery message => "Ingress API discovery failed: " ++ message
  | .server message => "Admin server error: " ++ message
  | .metrics message => "Metrics error: Error: " ++ message

/-- The form in which the command shows a failure on its error output. The details of a failed
call are left out. -/
def diagnostic : OperatorFailure → String
  | .api _ => "Kube("
  | .invalidConfig message => "InvalidConfig(" ++ Text.quoted message ++ ")"
  | .watch message => "Watch(" ++ Text.quoted message ++ ")"
  | .discovery message => "Discovery(" ++ Text.quoted message ++ ")"
  | .server message => "Server(" ++ message ++ ")"
  | .metrics message => "Metrics(Msg(" ++ Text.quoted message ++ "))"

end OperatorFailure

end FunctionOperator
