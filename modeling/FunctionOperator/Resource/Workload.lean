import FunctionOperator.Rendering.Workload
import FunctionOperator.Resource.WorkloadShape

/-!
# Deployments and services

The derived objects of functions as the cluster stores them. Their specs are either what the
operator rendered or a document that was read in the cluster's shape.
-/

namespace FunctionOperator

/-- A part of a stored object. -/
inductive Content (α : Type) where
  /-- What the operator decided. -/
  | rendered (value : α)
  /-- A document in the cluster's shape. -/
  | stored (document : Json)

/-- The document of a part. -/
def Content.toJson {α : Type} (write : α → Json) : Content α → Json
  | .rendered value => write value
  | .stored document => document

/-- A derived object of a kind whose documents have a known shape. -/
structure Derived (α : Type) where
  /-- The metadata. -/
  metadata : Metadata
  /-- The spec. -/
  spec : Option (Content α)
  /-- The status. -/
  status : Option Json

/-- A kind of derived objects. -/
structure DerivedKind (α : Type) where
  /-- The API group and version. -/
  apiVersion : String
  /-- The name of the kind. -/
  kind : String
  /-- The name of the collection. -/
  plural : String
  /-- The shape of specs. -/
  spec : Shape
  /-- The shape of statuses. -/
  status : Shape
  /-- The document of a rendered spec. -/
  write : α → Json

namespace DerivedKind

variable {α : Type}

/-- The fields of a derived object. -/
def record (kind : DerivedKind α) : Record (Derived α) where
  blank := ⟨{}, none, none⟩
  fields := [
    .fixed "apiVersion" kind.apiVersion,
    .fixed "kind" kind.kind,
    .defaulted "metadata" (Metadata.codec.orElse {}) (·.metadata)
      fun v r => { r with metadata := v },
    .maybe "spec" (kind.spec.codec.via (fun document => .ok (Content.stored document))
        (Content.toJson kind.write)) (·.spec)
      fun v r => { r with spec := v },
    .maybe "status" kind.status.codec (·.status) fun v r => { r with status := v }]

/-- The codec of derived objects. -/
def codec (kind : DerivedKind α) : Codec (Derived α) := kind.record.opened

end DerivedKind

/-- A deployment. -/
abbrev Deployment := Derived DeploymentSpec

namespace Deployment

/-- The kind of deployments. -/
def kind : DerivedKind DeploymentSpec where
  apiVersion := "apps/v1"
  kind := "Deployment"
  plural := "deployments"
  spec := .deploymentSpec
  status := .deploymentStatus
  write := DeploymentSpec.toJson

/-- A number of the spec. -/
def specNumber? (deployment : Deployment) (name : String) : Option Int := do
  match ← deployment.spec with
  | .rendered spec => if name = "replicas" then some spec.replicas else none
  | .stored document => (← document.get? name).int?

/-- A number of the status. -/
def statusNumber? (deployment : Deployment) (name : String) : Option Int := do
  ((← deployment.status).get? name) >>= Json.int?

/-- The deployment that runs a function, as a new object. -/
def make (settings : WorkloadSettings) (function : Function) : Deployment where
  metadata := {
    name := some function.metadata.displayName
    space := function.metadata.space
    labels := some (workloadLabels function)
    annotations := some (deploymentAnnotations function)
    ownerReferences := (Function.kind.ownerReference? function.metadata).map ([·]) }
  spec := some (.rendered (settings.deploymentSpec function))
  status := none

/-- A stored deployment brought up to what its function asks for. Annotations are merged; labels,
spec and controller are replaced; all else is kept. -/
def converge (settings : WorkloadSettings) (existing : Deployment) (function : Function) :
    Deployment :=
  let desired := make settings function
  let annotations := (existing.metadata.annotations.getD ∅).overlay
    (desired.metadata.annotations.getD ∅)
  { existing with
    metadata := ({ existing.metadata with
      annotations := some annotations
      labels := desired.metadata.labels }).setController desired.metadata.owners
    spec := desired.spec }

end Deployment

/-- A service. -/
abbrev Service := Derived ServiceSpec

namespace Service

/-- The kind of services. -/
def kind : DerivedKind ServiceSpec where
  apiVersion := "v1"
  kind := "Service"
  plural := "services"
  spec := .serviceSpec
  status := .serviceStatus
  write := ServiceSpec.toJson

/-- The service of a function, as a new object. -/
def make (settings : WorkloadSettings) (function : Function) : Service where
  metadata := {
    name := some function.metadata.displayName
    space := function.metadata.space
    ownerReferences := (Function.kind.ownerReference? function.metadata).map ([·]) }
  spec := some (.rendered (settings.serviceSpec function))
  status := none

end Service

end FunctionOperator
