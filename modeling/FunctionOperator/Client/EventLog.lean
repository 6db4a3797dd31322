import FunctionOperator.Client.Collection
import FunctionOperator.Resource.ClusterEvent
import FunctionOperator.Sync.Event

/-!
# Publishing events

An event about an object is posted once; when it happens again, the posted one is counted up.
Read `EventLog.publish` first. Two events are the same if they agree in all but their notes.
-/

namespace FunctionOperator

/-- An event as it is posted. -/
structure PostedEvent where
  /-- The event. -/
  event : SyncEvent
  /-- When it happened first. -/
  since : Timestamp
  /-- How often it happened and when last, if more than once. -/
  series : Option (Nat × Timestamp) := none

namespace PostedEvent

/-- The name of the operator, as it reports events. -/
def reporter : String := "ingress-operator"

/-- The name of a posted event: that of the object, and the time in hexadecimal digits. -/
def name (posted : PostedEvent) : String :=
  let nanos := (posted.since.seconds * 1_000_000_000 + posted.since.nanos).toNat
  posted.event.subject.name.getD reporter ++ "." ++ String.ofList (Nat.toDigits 16 nanos)

/-- The document of a posted event. -/
def toJson (posted : PostedEvent) : Json :=
  let event := posted.event
  Json.ofGiven [
    ("apiVersion", some (.string "events.k8s.io/v1")),
    ("kind", some (.string "Event")),
    ("action", some (.string event.action)),
    ("eventTime", some (Codec.microTimestamp.write posted.since)),
    ("metadata", some (Metadata.codec.write
      { name := some posted.name, space := event.subject.space })),
    ("note", event.note.map .string),
    ("reason", some (.string event.reason)),
    ("regarding", some event.subject.toJson),
    ("reportingController", some (.string reporter)),
    ("reportingInstance", some (.string reporter)),
    ("series", posted.series.map fun (count, last) => .object [
      ("count", .ofNat count), ("lastObservedTime", Codec.microTimestamp.write last)]),
    ("type", some (.string event.typeName))]

/-- The shape of the counts of an event that happened more than once. -/
def seriesShape : Shape :=
  .record [Shape.needed "count" .int32, Shape.needed "lastObservedTime" .microTime]

/-- The fields of the answer to a post, which are only checked. -/
def answerRecord : Record Unit where
  blank := ()
  fields := [
    .fixed "apiVersion" "events.k8s.io/v1",
    .fixed "kind" "Event",
    .ignored "action" .string,
    .ignored "deprecatedCount" .int32,
    .ignored "deprecatedFirstTimestamp" .timestamp,
    .ignored "deprecatedLastTimestamp" .timestamp,
    .ignored "deprecatedSource" ClusterEvent.sourceShape.codec,
    .ignored "eventTime" .microTimestamp,
    .ignored "metadata" Metadata.codec,
    .ignored "note" .string,
    .ignored "reason" .string,
    .ignored "regarding" ClusterEvent.objectShape.codec,
    .ignored "related" ClusterEvent.objectShape.codec,
    .ignored "reportingController" .string,
    .ignored "reportingInstance" .string,
    .ignored "series" seriesShape.codec,
    .ignored "type" .string]

/-- The call that posts an event, or counts a posted one up. -/
def post (posted : PostedEvent) : ApiCall Unit :=
  let events : Collection Unit :=
    ⟨"events.k8s.io/v1", "events", ⟨answerRecord.opened.read, fun _ => posted.toJson⟩⟩
  let space := posted.event.subject.space.getD "default"
  match posted.series with
  | none => events.create space ()
  | some _ => events.merge space posted.name posted.toJson

end PostedEvent

namespace SyncEvent

/-- Whether two events are the same but for their notes. -/
def same (first second : SyncEvent) : Bool :=
  first.subject == second.subject && first.warning == second.warning &&
    first.reason == second.reason && first.action == second.action

end SyncEvent

/-- The events that were posted. -/
structure EventLog where
  /-- The events, each with its latest count. -/
  posted : List PostedEvent := []

namespace EventLog

/-- What is posted when an event happens: the first event again, with a higher count, or a new
one. -/
def next (log : EventLog) (event : SyncEvent) (now : Timestamp) : PostedEvent :=
  match log.posted.find? fun posted => posted.event.same event with
  | some known => { known with series := some ((known.series.map (·.1)).getD 1 + 1, now) }
  | none => { event := event, since := now }

/-- The log after an event was accepted. -/
def keep (log : EventLog) (posted : PostedEvent) : EventLog :=
  ⟨posted :: log.posted.filter fun known => !known.event.same posted.event⟩

/-- Publishes an event. What is not accepted is not kept. -/
def publish {σ : Type} (transport : Transport σ) (log : EventLog) (event : SyncEvent)
    (now : Timestamp) (state : σ) : Except ApiFailure Unit × EventLog × σ :=
  let posted := log.next event now
  match posted.post.run transport state with
  | (.ok (), state) => (.ok (), log.keep posted, state)
  | (.error failure, state) => (.error failure, log, state)

end EventLog

end FunctionOperator
