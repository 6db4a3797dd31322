import FunctionOperator.Resource.Metadata

/-!
# Primary objects

The objects that users declare and that the operator turns into derived ones. A primary object is
its metadata and a spec; what distinguishes the kinds of primary objects is a `PrimaryKind`.
-/

namespace FunctionOperator

/-- A declared object. -/
structure Primary (σ : Type) where
  /-- The metadata. -/
  metadata : Metadata
  /-- What is wanted. -/
  spec : σ

/-- A kind of declared objects. -/
structure PrimaryKind (σ : Type) where
  /-- The API group and version. -/
  apiVersion : String
  /-- The name of the kind. -/
  kind : String
  /-- The name of the collection. -/
  plural : String
  /-- The codec of specs. -/
  spec : Codec σ
  /-- The spec that stands for an unknown one. -/
  blank : σ
  /-- The annotation of derived objects that records the declared state. -/
  snapshotKey : String

namespace PrimaryKind

variable {σ : Type}

/-- The fields of a declared object. -/
def record (kind : PrimaryKind σ) : Record (Primary σ) where
  blank := ⟨{}, kind.blank⟩
  fields := [
    .required "metadata" Metadata.codec (·.metadata) fun v r => { r with metadata := v },
    .required "spec" kind.spec (·.spec) fun v r => { r with spec := v }]

/-- The codec of declared objects. The API version and the kind are written and not looked at. -/
def codec (kind : PrimaryKind σ) : Codec (Primary σ) where
  read := kind.record.closed.read
  write object := .object [("apiVersion", .string kind.apiVersion), ("kind", .string kind.kind),
    ("metadata", Metadata.codec.write object.metadata), ("spec", kind.spec.write object.spec)]

end PrimaryKind

end FunctionOperator
