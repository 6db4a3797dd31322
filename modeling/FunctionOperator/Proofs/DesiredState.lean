import FunctionOperator.Cache.Routing
import FunctionOperator.Resource.Workload

/-!
# What counts as a change

A primary object is looked at again when its declared state changes, and a derived object is written
again when its record differs from the declared state. Read `Primary.desired_state_changed_iff`
first: both comparisons see the same differences. `SameRendering` says for each kind that two
versions are rendered alike, and `desired_state_decides_rendering` that two versions of an object
are, unless the comparisons see a difference: no rendering reads a part of an object that is not
compared.
-/

namespace FunctionOperator

/-- Metadata of two versions of one object: the name, the namespace and the identity stay. -/
structure Metadata.SameObject (old new : Metadata) : Prop where
  /-- The object has a name, which does not change. -/
  name : ∃ name, old.name = some name ∧ new.name = some name
  /-- The namespace is the same. -/
  space : old.space = new.space
  /-- The identity is the same. -/
  uid : old.uid = new.uid

namespace Metadata.SameObject

variable {old new : Metadata}

/-- Both versions go by the same name. -/
theorem display_name (h : old.SameObject new) : old.displayName = new.displayName := by
  obtain ⟨name, hold, hnew⟩ := h.name
  rw [displayName, displayName, hold, hnew, Option.getD_some, Option.getD_some]

/-- Both versions are referred to in the same way. -/
theorem owner_reference {σ : Type} (h : old.SameObject new) (kind : PrimaryKind σ) :
    kind.ownerReference? old = kind.ownerReference? new := by
  obtain ⟨name, hold, hnew⟩ := h.name
  rw [PrimaryKind.ownerReference?, PrimaryKind.ownerReference?, hold, hnew, h.uid]

end Metadata.SameObject

namespace Primary

variable {σ : Type} [DecidableEq σ] {old new : Primary σ}

/-- The declared state changed exactly if the record of the old version differs from the new one. -/
theorem desired_state_changed_iff :
    old.desiredStateChanged new = true ↔
      (Snapshot.capture old).agrees (Snapshot.capture new) = false := by
  rw [← Bool.not_eq_true]
  simp only [desiredStateChanged, Snapshot.agrees, Bool.or_eq_true, bne_iff_ne, Bool.and_eq_true,
    decide_eq_true_eq]
  exact Classical.not_and_iff_not_or_not.symm

/-- Two versions of an object between which the declared state did not change have one record. -/
theorem capture_eq (hsame : old.metadata.SameObject new.metadata)
    (h : old.desiredStateChanged new = false) : Snapshot.capture old = Snapshot.capture new := by
  obtain ⟨name, hold, hnew⟩ := hsame.name
  obtain ⟨hspec, hannotations⟩ : old.spec = new.spec ∧
      old.metadata.userAnnotations = new.metadata.userAnnotations := by
    simpa [desiredStateChanged] using h
  simp only [Snapshot.capture, hold, hnew, hsame.space, hspec, hannotations]

/-- An update makes the operator look at the object exactly if the records differ. -/
theorem route_updated :
    primaryRoute? (.updated old new) =
      if (Snapshot.capture old).agrees (Snapshot.capture new) then none
      else some (Key.ofMetadata new.metadata) := by
  rw [primaryRoute?]
  by_cases h : old.desiredStateChanged new = true
  · rw [if_pos h, desired_state_changed_iff.1 h, if_neg (by decide)]
  · have hagrees : (Snapshot.capture old).agrees (Snapshot.capture new) = true := by
      rw [← Bool.not_eq_false]
      exact fun hdiffers => h (desired_state_changed_iff.2 hdiffers)
    rw [if_neg h, if_pos hagrees]

end Primary

/-! ## Rendering -/

namespace FunctionIngress

variable {old new : FunctionIngress}

/-- The annotations of the ingress are made from the record and what it was taken from. -/
theorem annotations_eq (hsame : old.metadata.SameObject new.metadata)
    (h : old.desiredStateChanged new = false) :
    ingressAnnotations old = ingressAnnotations new := by
  have hcapture := Primary.capture_eq hsame h
  have hspec : old.spec = new.spec := congrArg Snapshot.spec hcapture
  have huser : old.metadata.userAnnotations = new.metadata.userAnnotations :=
    congrArg (fun snapshot => snapshot.metadata.annotations) hcapture
  simp only [ingressAnnotations, hcapture, hspec, huser]

/-- The same ingress is wanted of both versions. -/
theorem desired_eq (hsame : old.metadata.SameObject new.metadata)
    (h : old.desiredStateChanged new = false) : desiredIngress old = desiredIngress new := by
  have hspec : old.spec = new.spec := congrArg Snapshot.spec (Primary.capture_eq hsame h)
  simp only [desiredIngress, hsame.display_name, hsame.space, hsame.owner_reference, hspec,
    annotations_eq hsame h]

/-- Nothing that is rendered from a function ingress tells two versions apart. -/
structure SameRendering (old new : FunctionIngress) : Prop where
  /-- The wanted ingress is the same. -/
  desired : desiredIngress old = desiredIngress new
  /-- So is a new ingress, for every API. -/
  build (api : IngressApi) :
    Ingress.build api (desiredIngress old) = Ingress.build api (desiredIngress new)
  /-- So is every stored ingress that is brought up to date. -/
  converge (api : IngressApi) (existing : Ingress) :
    Ingress.converge api existing (desiredIngress old) =
      Ingress.converge api existing (desiredIngress new)

/-- Two versions between which the declared state did not change are rendered alike. -/
theorem same_rendering (hsame : old.metadata.SameObject new.metadata)
    (h : old.desiredStateChanged new = false) : SameRendering old new := by
  have hdesired := desired_eq hsame h
  exact ⟨hdesired, fun api => by rw [hdesired], fun api existing => by rw [hdesired]⟩

end FunctionIngress

namespace Function

variable {old new : Function}

/-- Both versions have the same deployment. -/
theorem deployment_eq (hsame : old.metadata.SameObject new.metadata)
    (h : old.desiredStateChanged new = false) (settings : WorkloadSettings) :
    Deployment.make settings old = Deployment.make settings new := by
  have hcapture := Primary.capture_eq hsame h
  have hspec : old.spec = new.spec := congrArg Snapshot.spec hcapture
  simp only [Deployment.make, WorkloadSettings.deploymentSpec, workloadLabels,
    deploymentAnnotations, hcapture, hspec, hsame.display_name, hsame.space, hsame.owner_reference]

/-- Both versions have the same service. -/
theorem service_eq (hsame : old.metadata.SameObject new.metadata) (settings : WorkloadSettings) :
    Service.make settings old = Service.make settings new := by
  simp only [Service.make, WorkloadSettings.serviceSpec, hsame.display_name, hsame.space,
    hsame.owner_reference]

/-- Nothing that is rendered from a function tells two versions apart. -/
structure SameRendering (old new : Function) : Prop where
  /-- A new deployment is the same, for all settings. -/
  deployment (settings : WorkloadSettings) :
    Deployment.make settings old = Deployment.make settings new
  /-- So is every stored deployment that is brought up to date. -/
  converge (settings : WorkloadSettings) (existing : Deployment) :
    Deployment.converge settings existing old = Deployment.converge settings existing new
  /-- So is a new service. -/
  service (settings : WorkloadSettings) : Service.make settings old = Service.make settings new

/-- Two versions between which the declared state did not change are rendered alike. -/
theorem same_rendering (hsame : old.metadata.SameObject new.metadata)
    (h : old.desiredStateChanged new = false) : SameRendering old new := by
  refine ⟨deployment_eq hsame h, fun settings existing => ?_, service_eq hsame⟩
  simp only [Deployment.converge, deployment_eq hsame h settings]

end Function

/-- For two versions of one object, an update makes the operator look at it exactly if the record of
the old version does not agree with the new one; and unless it does, everything that is rendered
from the two versions is the same. This holds for both kinds. -/
theorem desired_state_decides_rendering :
    (∀ old new : FunctionIngress, old.metadata.SameObject new.metadata →
      (old.desiredStateChanged new = true ↔
        (Snapshot.capture old).agrees (Snapshot.capture new) = false) ∧
      primaryRoute? (.updated old new) = (if (Snapshot.capture old).agrees (Snapshot.capture new)
        then none else some (Key.ofMetadata new.metadata)) ∧
      (old.desiredStateChanged new = false → FunctionIngress.SameRendering old new)) ∧
    (∀ old new : Function, old.metadata.SameObject new.metadata →
      (old.desiredStateChanged new = true ↔
        (Snapshot.capture old).agrees (Snapshot.capture new) = false) ∧
      primaryRoute? (.updated old new) = (if (Snapshot.capture old).agrees (Snapshot.capture new)
        then none else some (Key.ofMetadata new.metadata)) ∧
      (old.desiredStateChanged new = false → Function.SameRendering old new)) := by
  constructor
  · intro old new hsame
    exact ⟨Primary.desired_state_changed_iff, Primary.route_updated,
      FunctionIngress.same_rendering hsame⟩
  · intro old new hsame
    exact ⟨Primary.desired_state_changed_iff, Primary.route_updated,
      Function.same_rendering hsame⟩

/-- A function ingress as it was applied. -/
def appliedShop : FunctionIngress where
  metadata := {
    name := some "shop"
    space := some "web"
    uid := some "1"
    resourceVersion := some "1"
    annotations := some (SortedMap.ofList [("team", "a"), (lastAppliedKey, "\x7b\x7d")]) }
  spec := { domain := "shop.example", function := "shop" }

/-- The same function ingress with labels, as another version and applied in another way. -/
def relabelledShop : FunctionIngress :=
  { appliedShop with metadata := { appliedShop.metadata with
      resourceVersion := some "2"
      labels := some (SortedMap.ofList [("tier", "edge")])
      annotations := some (SortedMap.ofList [("team", "a")]) } }

/-- Labels, versions and what was applied last are no part of the declared state: the ingress is
rendered as before, and the operator does not look at the function ingress again. -/
theorem desired_state_decides_rendering_relabelled :
    appliedShop.metadata.SameObject relabelledShop.metadata ∧
      appliedShop.desiredStateChanged relabelledShop = false ∧
      primaryRoute? (.updated appliedShop relabelledShop) = none ∧
      FunctionIngress.SameRendering appliedShop relabelledShop := by
  have hsame : appliedShop.metadata.SameObject relabelledShop.metadata :=
    ⟨⟨"shop", rfl, rfl⟩, rfl, rfl⟩
  have hunchanged : appliedShop.desiredStateChanged relabelledShop = false := by decide +kernel
  have hagrees : (Snapshot.capture appliedShop).agrees (Snapshot.capture relabelledShop) = true := by
    decide +kernel
  obtain ⟨-, hroute, hrendering⟩ := desired_state_decides_rendering.1 _ _ hsame
  rw [if_pos hagrees] at hroute
  exact ⟨hsame, hunchanged, hroute, hrendering hunchanged⟩

end FunctionOperator
