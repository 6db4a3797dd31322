import FunctionOperator.Cache.Informer
import FunctionOperator.Ownership
import FunctionOperator.Snapshot
import FunctionOperator.WorkQueue

/-!
# Routing

Which notifications make the operator look at a primary object again. A primary object is looked
at when it appears and when its declared state changes; a derived object that is gone makes its
controller be looked at, if that is known.
-/

namespace FunctionOperator

/-- The key that a notification about a primary object calls for. -/
def primaryRoute? {σ : Type} [DecidableEq σ] : Notification (Primary σ) → Option String
  | .added object => some (Key.ofMetadata object.metadata)
  | .updated old new =>
    if old.desiredStateChanged new then some (Key.ofMetadata new.metadata) else none
  | .removed _ => none

/-- The key that a notification about a derived object calls for. -/
def ownerRoute? {σ α : Type} [HasMetadata α] (kind : PrimaryKind σ) (owners : Store (Primary σ)) :
    Notification α → Option String
  | .removed object => do
    let metadata := HasMetadata.metadata object
    let owner ← metadata.controller?
    let space := metadata.space.getD ""
    if owner.kind != kind.kind then none
    let _ ← owners.get? space owner.name
    return Key.of (some space) owner.name
  | _ => none

namespace WorkQueue

/-- Adds the keys that notifications call for, in their order. -/
def addRoutes {α : Type} (queue : WorkQueue) (route? : Notification α → Option String)
    (notifications : List (Notification α)) : WorkQueue :=
  (notifications.filterMap route?).foldl add queue

end WorkQueue

end FunctionOperator
