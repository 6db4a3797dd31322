import FunctionOperator.Key
import FunctionOperator.Resource.Ingress
import FunctionOperator.Resource.Workload

/-!
# Stores of objects

The objects of one type that the operator knows, by namespace and name. An object without a
namespace is found from every namespace, and an empty namespace is not the same as none. Read
`Store.get?` and `Store.insert` first.
-/

namespace FunctionOperator

/-- Objects that have metadata. -/
class HasMetadata (α : Type) where
  /-- The metadata of an object. -/
  metadata : α → Metadata

instance {σ : Type} : HasMetadata (Primary σ) := ⟨Primary.metadata⟩
instance : HasMetadata Ingress := ⟨Ingress.metadata⟩
instance {α : Type} : HasMetadata (Derived α) := ⟨Derived.metadata⟩

/-- By what a store finds an object. -/
structure ObjectId where
  /-- The namespace, if any. -/
  space : Option String
  /-- The name. -/
  name : String
deriving DecidableEq

/-- The objects of one type. -/
structure Store (α : Type) where
  /-- The objects, each under its own identity. -/
  entries : List (ObjectId × α)

namespace Store

variable {α : Type}

/-- The store without objects. -/
def empty : Store α := ⟨[]⟩

/-- The objects. -/
def objects (store : Store α) : List α := store.entries.map (·.2)

/-- The number of objects. -/
def size (store : Store α) : Nat := store.entries.length

/-- The object of an identity, and of no other. -/
def find? (store : Store α) (id : ObjectId) : Option α := store.entries.lookup id

/-- Puts an object in the place of the one that has its identity, or at the end. -/
def insertEntry (id : ObjectId) (object : α) : List (ObjectId × α) → List (ObjectId × α)
  | [] => [(id, object)]
  | entry :: rest =>
    if entry.1 = id then (id, object) :: rest else entry :: insertEntry id object rest

/-- Stores an object. -/
def insert (store : Store α) (id : ObjectId) (object : α) : Store α :=
  ⟨insertEntry id object store.entries⟩

/-- Forgets the object of an identity. -/
def erase (store : Store α) (id : ObjectId) : Store α :=
  ⟨store.entries.filter fun entry => entry.1 != id⟩

/-- Looks an object up. An empty namespace asks for none, and what is not found in a namespace is
looked for outside of namespaces. -/
def get? (store : Store α) (space name : String) : Option α :=
  let wanted : ObjectId := ⟨if space.isEmpty then none else some space, name⟩
  (store.find? wanted).or (store.find? ⟨none, name⟩)

/-- The text that shows a store in a diagnostic. -/
def diagnostic (store : Store α) : String :=
  "Store \x7b len: " ++ toString store.size ++ " \x7d"

end Store

/-- The identity of an object; none if it has no name. -/
def Metadata.objectId? (metadata : Metadata) : Option ObjectId :=
  metadata.name.map fun name => ⟨metadata.space, name⟩

/-- The store of some objects, the last of which count; none if one of them has no name. -/
def Store.ofObjects? {α : Type} [HasMetadata α] (objects : List α) : Option (Store α) :=
  objects.foldlM (fun store object => do
    let id ← (HasMetadata.metadata object).objectId?
    return store.insert id object) empty

end FunctionOperator
