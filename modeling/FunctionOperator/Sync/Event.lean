import FunctionOperator.Sync.Program

/-!
# Events about syncs

What the operator tells users about the sync of a primary object: that it was synced, or why not.
-/

namespace FunctionOperator

/-- A reference to the object of an event. -/
structure EventSubject where
  /-- The API version. -/
  apiVersion : String
  /-- The kind. -/
  kind : String
  /-- The name, if any. -/
  name : Option String
  /-- The namespace, if any. -/
  space : Option String
  /-- The identity, if any. -/
  uid : Option String
deriving DecidableEq

namespace EventSubject

/-- The document of a reference. -/
def toJson (subject : EventSubject) : Json :=
  Json.ofGiven [
    ("apiVersion", some (.string subject.apiVersion)),
    ("kind", some (.string subject.kind)),
    ("name", subject.name.map .string),
    ("namespace", subject.space.map .string),
    ("uid", subject.uid.map .string)]

end EventSubject

/-- Something to tell about an object. -/
structure SyncEvent where
  /-- The object. -/
  subject : EventSubject
  /-- Whether it is a warning. -/
  warning : Bool
  /-- The reason, in one word. -/
  reason : String
  /-- What the operator did. -/
  action : String
  /-- What there is to tell, if anything. -/
  note : Option String
deriving DecidableEq

namespace SyncEvent

/-- The type of an event. -/
def typeName (event : SyncEvent) : String := if event.warning then "Warning" else "Normal"

end SyncEvent

namespace PrimaryKind

variable {σ : Type}

/-- The reference to a primary object. -/
def subject (kind : PrimaryKind σ) (metadata : Metadata) : EventSubject :=
  ⟨kind.apiVersion, kind.kind, metadata.name, metadata.space, metadata.uid⟩

/-- The event about the result of a sync. -/
def event (kind : PrimaryKind σ) (metadata : Metadata) (result : SyncResult) : SyncEvent :=
  match result with
  | .ok _ => ⟨kind.subject metadata, false, "Synced", "Reconcile",
      some (kind.kind ++ " synced successfully")⟩
  | .error failure => ⟨kind.subject metadata, true, failure.reason, "Reconcile",
      some failure.message⟩

end PrimaryKind

end FunctionOperator
