import FunctionOperator.Resource.Primary

/-!
# Ownership

A derived object refers to its primary object as its controller. The reference decides whether
the operator may write the object, and finds the primary object when the derived one is gone.
-/

namespace FunctionOperator

namespace OwnerReference

/-- Whether the owner controls the object. -/
def isController (reference : OwnerReference) : Bool :=
  reference.controller == some true

end OwnerReference

namespace PrimaryKind

variable {σ : Type}

/-- The reference that makes an object of this kind the controller of another one. Only a stored
object, with a name and an identity, can be an owner. -/
def ownerReference? (kind : PrimaryKind σ) (owner : Metadata) : Option OwnerReference := do
  let name ← owner.name
  let uid ← owner.uid
  return ⟨kind.apiVersion, some true, some true, kind.kind, name, uid⟩

end PrimaryKind

namespace Metadata

/-- The owner that controls the object. -/
def controller? (metadata : Metadata) : Option OwnerReference :=
  metadata.owners.find? OwnerReference.isController

/-- Whether an object of a kind is the controller: kind and identity have to be the same. -/
def isControlledBy (metadata : Metadata) (ownerKind : String) (owner : Metadata) : Bool :=
  match metadata.controller? with
  | none => false
  | some reference => reference.kind == ownerKind && owner.uid == some reference.uid

/-- Replaces the controllers by the given owners; other owners are kept. Without an owner nothing
changes. -/
def setController (metadata : Metadata) (owners : List OwnerReference) : Metadata :=
  if owners.isEmpty then metadata
  else { metadata with
    ownerReferences := some ((metadata.owners.filter (!·.isController)) ++ owners) }

end Metadata

end FunctionOperator
