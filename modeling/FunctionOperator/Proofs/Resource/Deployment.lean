import FunctionOperator.Proofs.Sync.Records

/-!
# Deployments that are brought up to date

A stored deployment is brought up to what its function asks for. Read `Deployment.Follows` first,
which lists what `Deployment.converge_follows` proves of every stored deployment, whatever records,
annotations and owners it has: spec and labels are those of a new deployment, annotations are
merged, the function becomes the controller, and all else stays. The record of the declared state
comes last of all annotations, so that it can be recovered whoever else writes under its key.
-/

namespace FunctionOperator

namespace Deployment

/-- The value of an annotation. -/
def annotation? (deployment : Deployment) (key : String) : Option String :=
  deployment.metadata.annotations.bind (·.get? key)

/-- The annotation that is wanted under a key: the record of the declared state under its own key,
under any other key what the function asks for, and if it asks for nothing the deployment is marked
as one that is not to be scraped. -/
def wantedAnnotation? (function : Function) (key : String) : Option String :=
  if key = Function.kind.snapshotKey then some ((Snapshot.capture function).encode Function.kind)
  else (function.spec.annotations.bind (·.get? key)).or
    (if key = "prometheus.io.scrape" then some "false" else none)

variable {settings : WorkloadSettings} {function : Function}

/-- A new deployment has the wanted annotations. -/
theorem annotation?_make (key : String) :
    (make settings function).annotation? key = wantedAnnotation? function key := by
  have hmark : (SortedMap.ofList [("prometheus.io.scrape", "false")]).get? key =
      if key = "prometheus.io.scrape" then some "false" else none :=
    SortedMap.get?_insert .empty _ _ _
  show (deploymentAnnotations function).get? key = _
  rw [deploymentAnnotations, SortedMap.get?_insert, SortedMap.get?_overlay, hmark,
    SortedMap.get?_get_or_empty]
  rfl

/-- A wanted annotation counts, and any other is as it was. -/
theorem annotation?_converge (existing : Deployment) (key : String) :
    (converge settings existing function).annotation? key =
      ((make settings function).annotation? key).or (existing.annotation? key) := by
  rw [annotation?, converge_metadata, Option.bind_some, SortedMap.get?_overlay,
    SortedMap.get?_get_or_empty]
  rfl

/-- The owner of a new deployment is the function, if it is stored. -/
theorem owners_make : (make settings function).metadata.owners =
    (Function.kind.ownerReference? function.metadata).toList :=
  Metadata.owners_of_reference rfl

/-- A deployment that was brought up to date is so. -/
theorem converge_twice (existing : Deployment) :
    converge settings (converge settings existing function) function =
      converge settings existing function := by
  have hcontrolled : (converge settings existing function).metadata.setController
      (make settings function).metadata.owners = (converge settings existing function).metadata :=
    Metadata.set_controller_twice _
      (owners_make ▸ PrimaryKind.owner_reference_controls _ function.metadata)
  have hannotations : (converge settings existing function).metadata.annotations =
      some ((existing.metadata.annotations.getD ∅).overlay (deploymentAnnotations function)) := by
    rw [converge_metadata]
  have hlabels : (converge settings existing function).metadata.labels =
      some (workloadLabels function) := by
    rw [converge_metadata]
  have hmetadata : (converge settings (converge settings existing function) function).metadata =
      (converge settings existing function).metadata := by
    rw [converge_metadata, hcontrolled, hannotations, Option.getD_some, SortedMap.overlay_twice,
      ← hannotations, ← hlabels]
  calc converge settings (converge settings existing function) function
      = ⟨(converge settings (converge settings existing function) function).metadata,
          (make settings function).spec, existing.status⟩ := rfl
    _ = converge settings existing function := by rw [hmetadata]; rfl

/-- What it means that `updated` is a stored deployment `existing` brought up to what its function
asks for. -/
structure Follows (settings : WorkloadSettings) (function : Function)
    (existing updated : Deployment) : Prop where
  /-- The spec is that of a new deployment. -/
  spec : updated.spec = (make settings function).spec
  /-- The labels are those of a new deployment. -/
  labels : updated.metadata.labels = (make settings function).metadata.labels
  /-- An annotation is that of a new deployment, and as it was if a new one has none. -/
  annotations : ∀ key, updated.annotation? key =
    ((make settings function).annotation? key).or (existing.annotation? key)
  /-- A new deployment has the wanted annotations. -/
  wanted : ∀ key, (make settings function).annotation? key = wantedAnnotation? function key
  /-- The function is the one controller, next to the owners that control nothing. -/
  owners : ∃ reference, Function.kind.ownerReference? function.metadata = some reference ∧
    updated.metadata.owners = existing.metadata.owners.filter (!·.isController) ++ [reference] ∧
    updated.metadata.controller? = some reference
  /-- The metadata are as they were, apart from annotations, labels and owners. -/
  metadata : { updated.metadata with
      annotations := existing.metadata.annotations
      labels := existing.metadata.labels
      ownerReferences := existing.metadata.ownerReferences } = existing.metadata
  /-- The status is as it was. -/
  status : updated.status = existing.status
  /-- The declared state is recovered. -/
  carries : updated.metadata.Carries Function.kind function
  /-- Bringing it up to date once more changes nothing. -/
  again : converge settings updated function = updated

/-- Whatever a deployment was, it can be brought up to what a stored function asks for. -/
theorem converge_follows (settings : WorkloadSettings) (existing : Deployment)
    (function : Function) (hname : function.metadata.name.isSome = true)
    (huid : function.metadata.uid.isSome = true) (hrange : function.spec.InRange) :
    Follows settings function existing (converge settings existing function) where
  spec := rfl
  labels := by rw [converge_metadata]; rfl
  annotations := annotation?_converge existing
  wanted := annotation?_make
  owners := by
    obtain ⟨name, hname⟩ := Option.isSome_iff_exists.1 hname
    obtain ⟨uid, huid⟩ := Option.isSome_iff_exists.1 huid
    have hreference : Function.kind.ownerReference? function.metadata =
        some ⟨Function.kind.apiVersion, some true, some true, Function.kind.kind, name, uid⟩ := by
      simp [PrimaryKind.ownerReference?, hname, huid]
    refine ⟨_, hreference, ?_, ?_⟩
    · rw [converge_metadata, owners_make, hreference]
      rfl
    · show Metadata.controller? (Metadata.setController _ _) = _
      rw [owners_make, hreference]
      exact Metadata.controller_set_controller _ rfl
  metadata := by rw [converge_metadata]
  status := rfl
  carries := converge_carries existing hrange
  again := converge_twice existing

/-- A deployment of another controller, with a record that cannot be read and with notes of other
clients. -/
def stray : Deployment where
  metadata := {
    name := some "echo"
    space := some "web"
    resourceVersion := some "7"
    finalizers := some ["drained"]
    annotations := some (SortedMap.ofList
      [(Function.kind.snapshotKey, "no record"), ("note", "kept"),
        ("prometheus.io.scrape", "true")])
    ownerReferences := some [⟨"v1", none, none, "Quota", "small", "8"⟩,
      ⟨"apps/v1", some true, some true, "StatefulSet", "echo", "9"⟩] }
  spec := none
  status := some (.object [])

/-- A function that asks for annotations under the operator's own keys. -/
def pretending : Function where
  metadata := { name := some "echo", space := some "web", uid := some "1" }
  spec := {
    name := "echo"
    image := "echo:2"
    replicas := some 3
    annotations := some (SortedMap.ofList
      [(Function.kind.snapshotKey, "forged"), ("prometheus.io.scrape", "yes")]) }

/-- The stray deployment is brought up to what the function asks for: its notes and the owner that
controls nothing stay, and the record is that of the function. -/
theorem converge_follows_stray :
    Follows {} pretending stray (converge {} stray pretending) ∧
      (converge {} stray pretending).annotation? "note" = some "kept" ∧
      (converge {} stray pretending).annotation? "prometheus.io.scrape" = some "yes" ∧
      (converge {} stray pretending).metadata.owners =
        [⟨"v1", none, none, "Quota", "small", "8"⟩,
          ⟨"openfaas.com/v1alpha2", some true, some true, "Function", "echo", "1"⟩] ∧
      Snapshot.recover Function.kind (converge {} stray pretending).metadata.annotations =
        .ok (Snapshot.capture pretending) := by
  have hrange : pretending.spec.InRange := by
    rintro _ ⟨⟩
    decide
  have h := converge_follows {} stray pretending rfl rfl hrange
  refine ⟨h, ?_, ?_, ?_, h.carries⟩
  · rw [h.annotations, h.wanted]
    decide +kernel
  · rw [h.annotations, h.wanted]
    decide +kernel
  · obtain ⟨reference, hreference, howners, -⟩ := h.owners
    cases hreference
    exact howners

end Deployment

end FunctionOperator
