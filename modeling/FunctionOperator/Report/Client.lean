import FunctionOperator.Client.EventLog
import FunctionOperator.Client.Request
import FunctionOperator.Loop.ScriptedApi

/-!
# Reports of requests, events and writes

The documents that show what is sent to the cluster. The name of a posted event ends in the time of
its first post; in a report a star stands for that, and the times are left out.
-/

namespace FunctionOperator

/-- A name up to its last dot, and a star. -/
def starred (name : String) : String :=
  String.ofList ((name.toList.reverse.dropWhile (· != '.')).reverse ++ ['*'])

namespace PostedEvent

/-- The document of a posted event without what depends on the time. -/
def timeless (event : Json) : Json :=
  let event := event.remove "eventTime"
  let event := match event.get? "metadata" with
    | none => event
    | some metadata =>
      let name := ((metadata.get? "name").bind Json.string?).getD ""
      event.set "metadata" (metadata.set "name" (.string (starred name)))
  match event.get? "series" with
  | some series => event.set "series" (series.remove "lastObservedTime")
  | none => event

end PostedEvent

namespace ApiRequest

/-- Whether a request posts an event. -/
def postsEvent (request : ApiRequest) : Bool :=
  request.path.startsWith (Collection.root "events.k8s.io/v1")

/-- The report of a request. -/
def report (request : ApiRequest) : Json :=
  let posts := request.postsEvent
  let starredPath := posts && request.method == "PATCH"
  .ofGiven [
    ("method", some (.string request.method)),
    ("path", some (.string (if starredPath then starred request.path else request.path))),
    ("query", if request.query.isEmpty then none else some (.string request.query)),
    ("content_type", request.body.map fun body => .string body.1),
    ("body", request.body.map fun body => if posts then PostedEvent.timeless body.2 else body.2)]

end ApiRequest

namespace SyncEvent

/-- The report of an event. -/
def report (event : SyncEvent) : Json :=
  .object [("object", event.subject.toJson), ("type", .string event.typeName),
    ("reason", .string event.reason), ("action", .string event.action),
    ("note", .ofOption (event.note.map .string))]

end SyncEvent

/-- The name of a call by which a sync writes. -/
def WriteCall.name : WriteCall → String
  | .createIngress => "create"
  | .replaceIngress => "replace"
  | .createDeployment => "create_deployment"
  | .replaceDeployment => "replace_deployment"
  | .createService => "create_service"

/-- The calls by which syncs write. -/
def WriteCall.all : List WriteCall :=
  [.createIngress, .replaceIngress, .createDeployment, .replaceDeployment, .createService]

end FunctionOperator
