import FunctionOperator.Proofs.Resource.Ingress
import FunctionOperator.Proofs.Snapshot
import FunctionOperator.Proofs.Sync.Courses

/-!
# Written objects record the declared state

Whether it is new or brought up to date, a derived object that the operator writes records the
declared state that it was rendered from. Read `Ingress.converge_records` and
`Deployment.converge_records` first. The two differ in one thing: the record of a deployment is put
into its annotations last, while that of an ingress gives way to an annotation of the same key on
the function ingress.
-/

namespace FunctionOperator

/-- What is recovered from the metadata of a derived object is the declared state of a primary one,
its name included. -/
def Metadata.Carries {σ : Type} (kind : PrimaryKind σ) (metadata : Metadata) (primary : Primary σ) :
    Prop :=
  Snapshot.recover kind metadata.annotations = .ok (Snapshot.capture primary)

/-- An object that carries the declared state records it. -/
theorem Metadata.Carries.records {σ : Type} [DecidableEq σ] {kind : PrimaryKind σ}
    {primary : Primary σ} {metadata : Metadata} (h : metadata.Carries kind primary) :
    metadata.Records kind primary :=
  ⟨Snapshot.capture primary, h, Snapshot.agrees_self _⟩

/-- An object carries the declared state if it has the text of its snapshot. -/
theorem Metadata.carries_of_get {σ : Type} {kind : PrimaryKind σ} {primary : Primary σ}
    {metadata : Metadata} {annotations : TextMap} {levels : Nat}
    (hspec : kind.spec.Restores levels primary.spec) (hmin : 2 ≤ levels)
    (hmax : levels < Draft.deepest) (hannotations : metadata.annotations = some annotations)
    (hget : annotations.get? kind.snapshotKey = some ((Snapshot.capture primary).encode kind)) :
    metadata.Carries kind primary := by
  rw [Metadata.Carries, hannotations, Snapshot.recover_encode hspec hmin hmax hget,
    Snapshot.capture_without_last_applied]

/-! ## Ingresses -/

namespace Ingress

variable {api : IngressApi} {primary : FunctionIngress}

/-- A new ingress carries the declared state. -/
theorem build_carries
    (h : primary.metadata.userAnnotations.get? FunctionIngress.kind.snapshotKey = none) :
    (build api (desiredIngress primary)).metadata.Carries FunctionIngress.kind primary :=
  Metadata.carries_of_get (FunctionIngressSpec.restores _) (by decide) (by decide) rfl
    (ingress_annotations_record h)

/-- A new ingress records the declared state. -/
theorem build_records
    (h : primary.metadata.userAnnotations.get? FunctionIngress.kind.snapshotKey = none) :
    (build api (desiredIngress primary)).metadata.Records FunctionIngress.kind primary :=
  (build_carries h).records

/-- An ingress that was brought up to date carries the declared state. -/
theorem converge_carries (existing : Ingress)
    (h : primary.metadata.userAnnotations.get? FunctionIngress.kind.snapshotKey = none) :
    (converge api existing (desiredIngress primary)).metadata.Carries FunctionIngress.kind
      primary := by
  refine Metadata.carries_of_get (FunctionIngressSpec.restores _) (by decide) (by decide)
    (congrArg Metadata.annotations (converge_metadata existing)) ?_
  rw [get?_converge_annotations]
  show ((ingressAnnotations primary).get? _).or _ = _
  rw [ingress_annotations_record h]
  rfl

/-- An ingress that was brought up to date records the declared state. -/
theorem converge_records (existing : Ingress)
    (h : primary.metadata.userAnnotations.get? FunctionIngress.kind.snapshotKey = none) :
    (converge api existing (desiredIngress primary)).metadata.Records FunctionIngress.kind
      primary :=
  (converge_carries existing h).records

end Ingress

/-! ## Deployments -/

namespace Deployment

variable {settings : WorkloadSettings} {primary : Function}

/-- The annotations of a deployment have the record, whatever annotations the function asks for. -/
theorem deployment_annotations_record (primary : Function) :
    (deploymentAnnotations primary).get? Function.kind.snapshotKey =
      some ((Snapshot.capture primary).encode Function.kind) := by
  rw [deploymentAnnotations, SortedMap.get?_insert, if_pos rfl]

/-- A new deployment carries the declared state. -/
theorem make_carries (h : primary.spec.InRange) :
    (make settings primary).metadata.Carries Function.kind primary :=
  Metadata.carries_of_get (FunctionSpec.restores h) (by decide) (by decide) rfl
    (deployment_annotations_record primary)

/-- A new deployment records the declared state. -/
theorem make_records (h : primary.spec.InRange) :
    (make settings primary).metadata.Records Function.kind primary :=
  (make_carries h).records

/-- Of the metadata of a deployment that is brought up to date, the annotations are merged, the
labels are replaced and the controller is set. -/
theorem converge_metadata (existing : Deployment) :
    (converge settings existing primary).metadata =
      { existing.metadata with
        annotations := some ((existing.metadata.annotations.getD ∅).overlay
          (deploymentAnnotations primary))
        labels := some (workloadLabels primary)
        ownerReferences := (existing.metadata.setController
          (make settings primary).metadata.owners).ownerReferences } := by
  show Metadata.setController _ _ = _
  rw [Metadata.set_controller_eq]
  unfold Metadata.setController
  split <;> rfl

/-- A deployment that was brought up to date carries the declared state. -/
theorem converge_carries (existing : Deployment) (h : primary.spec.InRange) :
    (converge settings existing primary).metadata.Carries Function.kind primary := by
  refine Metadata.carries_of_get (FunctionSpec.restores h) (by decide) (by decide)
    (congrArg Metadata.annotations (converge_metadata existing)) ?_
  rw [SortedMap.get?_overlay, deployment_annotations_record]
  rfl

/-- A deployment that was brought up to date records the declared state. -/
theorem converge_records (existing : Deployment) (h : primary.spec.InRange) :
    (converge settings existing primary).metadata.Records Function.kind primary :=
  (converge_carries existing h).records

end Deployment

end FunctionOperator
