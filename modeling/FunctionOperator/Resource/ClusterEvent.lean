import FunctionOperator.Key
import FunctionOperator.Resource.Shape

/-!
# Events of the cluster

What the cluster tells about its objects. A function that cannot be run shows up as warnings about
its pods; the recent ones are logged. Read `ClusterEvent.isRecentWarning` first.
-/

namespace FunctionOperator

/-- An event, as far as the operator looks at it. -/
structure ClusterEvent where
  /-- When it happened, to the microsecond. -/
  eventTime : Option Timestamp
  /-- When it happened last. -/
  lastTimestamp : Option Timestamp
  /-- What happened. -/
  message : Option String
  /-- The metadata. -/
  metadata : Metadata
  /-- Whether it is a warning, in words. -/
  type : Option String

namespace ClusterEvent

/-- The shape of references to objects. -/
def objectShape : Shape :=
  .record (Shape.each ["apiVersion", "fieldPath", "kind", "name", "namespace", "resourceVersion",
    "uid"] .text)

/-- The shape of counts of a repeated event. -/
def seriesShape : Shape :=
  .record [Shape.field "count" .int32, Shape.field "lastObservedTime" .microTime]

/-- The shape of references to reporters. -/
def sourceShape : Shape := .record (Shape.each ["component", "host"] .text)

/-- The fields of an event. -/
def record : Record ClusterEvent where
  blank := ⟨none, none, none, {}, none⟩
  fields := [
    .fixed "apiVersion" "v1",
    .fixed "kind" "Event",
    .ignored "action" .string,
    .ignored "count" .int32,
    .maybe "eventTime" .microTimestamp (·.eventTime) fun v r => { r with eventTime := v },
    .ignored "firstTimestamp" .timestamp,
    .ignored "involvedObject" objectShape.codec,
    .maybe "lastTimestamp" .timestamp (·.lastTimestamp)
      fun v r => { r with lastTimestamp := v },
    .maybe "message" .string (·.message) fun v r => { r with message := v },
    .defaulted "metadata" (Metadata.codec.orElse {}) (·.metadata)
      fun v r => { r with metadata := v },
    .ignored "reason" .string,
    .ignored "related" objectShape.codec,
    .ignored "reportingComponent" .string,
    .ignored "reportingInstance" .string,
    .ignored "series" seriesShape.codec,
    .ignored "source" sourceShape.codec,
    .maybe "type" .string (·.type) fun v r => { r with type := v }]

/-- The codec of events. -/
def codec : Codec ClusterEvent := record.opened

/-- When the event happened last. -/
def lastSeen? (event : ClusterEvent) : Option Timestamp := event.lastTimestamp.or event.eventTime

/-- Warnings are told until they are as old as this, in seconds. -/
def recentSeconds : Int := 61

/-- Whether a text occurs in another one. -/
def occurs (part whole : List Char) : Bool :=
  match whole with
  | [] => part.isEmpty
  | _ :: rest => part.isPrefixOf whole || occurs part rest

/-- Whether the event is a warning. -/
def isWarning (event : ClusterEvent) : Bool :=
  event.type.any fun type => occurs "Warning".toList type.toList

/-- Whether the event is a warning and has just happened, or will. -/
def isRecentWarning (event : ClusterEvent) (now : Timestamp) : Bool :=
  event.isWarning &&
    event.lastSeen?.any fun time => decide (now.nanosSince time < recentSeconds * 1_000_000_000)

/-- What is logged about an event when it is first seen. -/
def logLine? (event : ClusterEvent) (now : Timestamp) : Option String :=
  if event.isRecentWarning now then
    some ("Abnormal event detected on " ++ Key.ofMetadata event.metadata ++ ": " ++
      event.message.getD "")
  else none

end ClusterEvent

end FunctionOperator
