import FunctionOperator.Cache.Store
import FunctionOperator.Failure

/-!
# Informers

An informer keeps a store in step with a stream of events and tells what has changed. Read
`Informer.process?` first. While a list is under way its objects are gathered aside; they replace
the store when the list is complete, and only then what the list lacks is reported as deleted.
-/

namespace FunctionOperator

/-- What a watch reports. -/
inductive WatchEvent (α : Type) where
  /-- A list begins. -/
  | listStarted
  /-- The list has an object. -/
  | listed (object : α)
  /-- The list is complete. -/
  | listCompleted
  /-- An object was created or changed. -/
  | applied (object : α)
  /-- An object was deleted. -/
  | deleted (object : α)

/-- What an informer tells. -/
inductive Notification (α : Type) where
  /-- An object that was not known. -/
  | added (object : α)
  /-- Another version of a known object. -/
  | updated (old new : α)
  /-- An object that is gone. -/
  | removed (object : α)

/-- The state of an informer. -/
structure Informer (α : Type) where
  /-- The objects that readers see. -/
  store : Store α
  /-- The objects of the list under way. -/
  gathered : Store α
  /-- The keys of the list under way. -/
  listedKeys : List String
  /-- Whether a list was completed. -/
  ready : Bool

namespace Informer

variable {α : Type} [HasMetadata α]

/-- An informer that has seen nothing. -/
def new : Informer α := ⟨.empty, .empty, [], false⟩

/-- The stored object that readers would get for an object. -/
def cached? (informer : Informer α) (object : α) : Option α :=
  let metadata := HasMetadata.metadata object
  informer.store.get? (metadata.space.getD "") metadata.displayName

/-- What is told about an object that is there, by the version that readers had. -/
def upsert (previous : Option α) (object : α) : Notification α :=
  match previous with
  | some old => .updated old object
  | none => .added object

/-- The key of an object. -/
def keyOf (object : α) : String := Key.ofMetadata (HasMetadata.metadata object)

/-- The stored objects that the list under way lacks. -/
def missing (informer : Informer α) : List α :=
  informer.store.objects.filter fun object => !informer.listedKeys.contains (keyOf object)

/-- Takes an event in and tells what has changed. Nothing comes out for an object without a name,
which cannot be stored. A deleted object is told as it was stored. -/
def process? (informer : Informer α) (event : WatchEvent α) :
    Option (List (Notification α) × Informer α) :=
  match event with
  | .listStarted => some ([], { informer with gathered := .empty, listedKeys := [] })
  | .listed object => do
    let id ← (HasMetadata.metadata object).objectId?
    return ([upsert (informer.cached? object) object],
      { informer with
        gathered := informer.gathered.insert id object
        listedKeys := keyOf object :: informer.listedKeys })
  | .listCompleted =>
    some (informer.missing.map .removed,
      { store := informer.gathered, gathered := .empty, listedKeys := [], ready := true })
  | .applied object => do
    let id ← (HasMetadata.metadata object).objectId?
    return ([upsert (informer.cached? object) object],
      { informer with store := informer.store.insert id object })
  | .deleted object => do
    let id ← (HasMetadata.metadata object).objectId?
    return ([.removed ((informer.cached? object).getD object)],
      { informer with store := informer.store.erase id })

/-- What waiting for the first complete list ends with when the informer is gone. -/
def whenDropped (informer : Informer α) : Except OperatorFailure Unit :=
  if informer.ready then .ok ()
  else .error (.watch "writer was dropped before store became ready")

end Informer

end FunctionOperator
