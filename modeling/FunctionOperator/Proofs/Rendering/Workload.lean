import FunctionOperator.Proofs.Json.Members
import FunctionOperator.Proofs.Json.Unknown
import FunctionOperator.Proofs.Sync.Records

/-!
# Workloads that fit together

The deployment and the service of a function name the same labels, ports and volumes in different
places of two documents. Read `Fits` first, which says of the documents as they are written which
places have to agree. `workload_fits` says that the documents of every function do, whether the
deployment is new or was brought up to date, and that no sequence of versions of a function changes
by what its pods are selected.

The documents are looked at by paths, so that nothing here depends on how a deployment is held in
memory. Each part has a lemma on what is found in its own document.
-/

namespace FunctionOperator

/-! ## Parts of documents -/

namespace Json

/-- The items of the list at a path; none where there is no list. -/
def itemsAt (path : List String) (value : Json) : List Json :=
  ((value.at? path).bind items?).getD []

/-- Every member of the first object is one of the second. -/
def Within (part whole : Json) : Prop :=
  ∀ name value, part.get? name = some value → whole.get? name = some value

/-- Of members that have different names those that are given are found. -/
theorem lookup_given {members : List (String × Option Json)} (h : (members.map (·.1)).Nodup)
    (name : String) :
    (members.filterMap fun entry => entry.2.map (entry.1, ·)).lookup name =
      (members.lookup name).join := by
  induction members with
  | nil => rfl
  | cons entry members ih =>
    obtain ⟨first, value⟩ := entry
    obtain ⟨hfirst, hrest⟩ := List.nodup_cons.1 h
    rw [SortedMap.lookup_cons_entry]
    cases value with
    | none =>
      refine (ih hrest).trans ?_
      split
      · next hname =>
        rw [SortedMap.lookup_eq_none fun entry hentry heq =>
          hfirst (List.mem_map.2 ⟨entry, hentry, (hname.symm.trans heq).symm⟩)]
        rfl
      · rfl
    | some value =>
      refine (SortedMap.lookup_cons_entry first name value _).trans ?_
      split
      · rfl
      · exact ih hrest

/-- In an object of given members that have different names a member is found if it is given. -/
theorem get?_of_given {members : List (String × Option Json)} (h : (members.map (·.1)).Nodup)
    (name : String) : (ofGiven members).get? name = (members.lookup name).join := by
  have hnames : ((members.filterMap fun entry => entry.2.map (entry.1, ·)).map (·.1)).Sublist
      (members.map (·.1)) := by
    clear h
    induction members with
    | nil => exact .slnil
    | cons entry members ih =>
      obtain ⟨name, value⟩ := entry
      cases value with
      | none => exact ih.cons _
      | some value => exact ih.cons_cons _
  rw [ofGiven, get?_of_members (h.sublist hnames), lookup_given h]

/-- A list that is left out where it is empty has its items. -/
theorem items_of_items (items : List Json) : ((ofItems items).bind items?).getD [] = items := by
  unfold ofItems
  split
  · next h => exact (List.isEmpty_iff.1 h).symm
  · rfl

/-- In the document of a map of texts a text is found by its name. -/
theorem get?_text_map (texts : TextMap) (name : String) :
    (Codec.textMap.write texts).get? name = (texts.get? name).map Json.string := by
  show (texts.entries.map fun entry => (entry.1, Json.string entry.2)).lookup name = _
  unfold SortedMap.get?
  induction texts.entries with
  | nil => rfl
  | cons entry entries ih =>
    rw [List.map_cons, SortedMap.lookup_cons_entry, SortedMap.lookup_cons_entry, ih]
    split <;> rfl

end Json

/-! ## What has to agree -/

/-- The labels by which the pods of a function are selected. -/
def selectingLabels (name : String) : Json := .object [(functionLabel, .string name)]

/-- The pods of a deployment are selected by the name of a function, and have the labels by which
they are selected, as the deployment has. -/
structure Selects (name : String) (deployment : Json) : Prop where
  /-- Pods are selected by the name alone. -/
  selector : deployment.at? ["spec", "selector"] =
    some (.object [("matchLabels", selectingLabels name)])
  /-- The pods have these labels. -/
  pods : ∃ labels, deployment.at? ["spec", "template", "metadata", "labels"] = some labels ∧
    (selectingLabels name).Within labels
  /-- So has the deployment. -/
  labels : ∃ labels, deployment.at? ["metadata", "labels"] = some labels ∧
    (selectingLabels name).Within labels

/-- A container listens on a port, and what asks whether it is well does so there. -/
structure Listens (port : Json) (httpProbe : Bool) (container : Json) : Prop where
  /-- There is one port. -/
  ports : (container.itemsAt ["ports"]).map (·.get? "containerPort") = [some port]
  /-- Probes by requests go to it. -/
  probes : ∀ probe ∈ ["readinessProbe", "livenessProbe"],
    container.at? [probe, "httpGet", "port"] = if httpProbe then some port else none

/-- The volumes of a pod are those that its container mounts. -/
structure Mounts (volumes mounts : List Json) : Prop where
  /-- The volumes have different names, each of which is mounted once. -/
  names : ∃ names : List String, names.Nodup ∧
    volumes.map (·.get? "name") = names.map (some <| .string ·) ∧
    mounts.map (·.get? "name") = names.map (some <| .string ·)
  /-- They are mounted at different paths. -/
  paths : ∃ paths : List String, paths.Nodup ∧
    mounts.map (·.get? "mountPath") = paths.map (some <| .string ·)

/-- The documents of a deployment and a service fit together as those of a function. -/
structure Fits (settings : WorkloadSettings) (name : String) (deployment service : Json) :
    Prop where
  /-- The deployment selects its own pods. -/
  selects : Selects name deployment
  /-- The service selects the same pods. -/
  selector : service.at? ["spec", "selector"] = some (selectingLabels name)
  /-- The service has one port, which leads to the same port of the pods. -/
  ports : (service.itemsAt ["spec", "ports"]).map (fun port =>
      (port.get? "port", port.get? "targetPort")) =
    [(some (Json.ofInt settings.httpPort), some (Json.ofInt settings.httpPort))]
  /-- The pods have one container, which listens there and mounts their volumes. -/
  container : ∃ container,
    deployment.itemsAt ["spec", "template", "spec", "containers"] = [container] ∧
    Listens (Json.ofInt settings.httpPort) settings.httpProbe container ∧
    Mounts (deployment.itemsAt ["spec", "template", "spec", "volumes"])
      (container.itemsAt ["volumeMounts"])

/-! ## Documents of the parts -/

/-- Documents of a shape are written as they are. -/
theorem Shape.write_eq (shape : Shape) (document : Json) :
    shape.codec.write document = document := by
  cases shape <;> rfl

namespace DerivedKind

variable {α : Type} (kind : DerivedKind α) (object : Derived α)

/-- The fields of an object have different names. -/
theorem names_nodup : (kind.record.fields.map (·.name)).Nodup :=
  show ["apiVersion", "kind", "metadata", "spec", "status"].Nodup by decide

/-- The document of an object has that of its metadata. -/
theorem get?_metadata :
    (kind.codec.write object).get? "metadata" = some (Metadata.codec.write object.metadata) :=
  Record.lookup_written kind.names_nodup object (.tail _ (.tail _ (.head _)))

/-- The document of an object has that of its spec. -/
theorem get?_spec :
    (kind.codec.write object).get? "spec" = object.spec.map (Content.toJson kind.write) := by
  refine (Record.lookup_written kind.names_nodup object
    (.tail _ (.tail _ (.tail _ (.head _))))).trans ((Field.maybe_write ..).trans ?_)
  exact congrArg (Option.map · object.spec) (funext fun content =>
    kind.spec.write_eq (content.toJson kind.write))

end DerivedKind

/-- The document of metadata has the labels. -/
theorem Metadata.get?_labels (metadata : Metadata) :
    (Metadata.codec.write metadata).get? "labels" = metadata.labels.map Codec.textMap.write :=
  (Record.lookup_written (show (Metadata.record.fields.map (·.name)).Nodup by decide) metadata
    (.tail _ (.tail _ (.tail _ (.tail _ (.tail _ (.tail _ (.tail _ (.head _))))))))).trans
    (Field.maybe_write ..)

namespace Json

variable {value inner : Json} {name : String}

/-- A path goes on in what is found under its first name. -/
theorem at?_of_get (h : value.get? name = some inner) (path : List String) :
    value.at? (name :: path) = inner.at? path := by
  rw [at?, h, Option.bind_some]

/-- A path of one name is a name. -/
theorem at?_single (value : Json) (name : String) : value.at? [name] = value.get? name := by
  rw [at?]
  cases value.get? name <;> rfl

/-- The items of a list are found. -/
theorem items_at_of_array {path : List String} {items : List Json}
    (h : value.at? path = some (.array items)) : value.itemsAt path = items := by
  rw [itemsAt, h]
  rfl

/-- The items of a list that is left out where it is empty are found. -/
theorem items_at_of_items {path : List String} {items : List Json}
    (h : value.at? path = ofItems items) : value.itemsAt path = items := by
  rw [itemsAt, h, items_of_items]

end Json

/-- The document of a deployment's spec has the labels of its pods. -/
theorem DeploymentSpec.at?_selector (spec : DeploymentSpec) : spec.toJson.at? ["selector"] =
    some (.object [("matchLabels", Codec.textMap.write spec.selector)]) :=
  Json.at?_of_get (Json.get?_of_members (by simp) "selector") []

/-- The document of a deployment's spec has that of the template. -/
theorem DeploymentSpec.get?_template (spec : DeploymentSpec) :
    spec.toJson.get? "template" = some spec.template.toJson :=
  Json.get?_of_members (by simp) "template"

namespace PodTemplate

variable (template : PodTemplate)

/-- The document of a template has the labels of the pods. -/
theorem at?_labels : template.toJson.at? ["metadata", "labels"] =
    some (Codec.textMap.write template.labels) :=
  (Json.at?_of_get (Json.get?_of_members (by simp) "metadata") ["labels"]).trans
    (Json.at?_of_get (Json.get?_of_given (by simp) "labels") [])

/-- The document of a template has that of its container. -/
theorem at?_containers : template.toJson.at? ["spec", "containers"] =
    some (.array [template.container.toJson]) :=
  (Json.at?_of_get (Json.get?_of_members (by simp) "spec") ["containers"]).trans
    (Json.at?_of_get (Json.get?_of_given (by simp) "containers") [])

/-- The document of a template has those of its volumes. -/
theorem at?_volumes : template.toJson.at? ["spec", "volumes"] =
    Json.ofItems (template.volumes.map Volume.toJson) :=
  (Json.at?_of_get (Json.get?_of_members (by simp) "spec") ["volumes"]).trans
    ((Json.at?_single _ _).trans (Json.get?_of_given (by simp) "volumes"))

end PodTemplate

namespace Container

variable (container : Container)

/-- The document of a container has its port. -/
theorem ports_listen : (container.toJson.itemsAt ["ports"]).map (·.get? "containerPort") =
    [some (Json.ofInt container.port)] := by
  have hport : container.toJson.at? ["ports"] = some (.array [Json.ofMembers [
      ("containerPort", .ofInt container.port), ("protocol", .string "TCP")]]) :=
    Json.at?_of_get (Json.get?_of_given (by simp) "ports") []
  rw [Json.items_at_of_array hport, List.map_singleton, Json.get?_of_members (by simp)]
  rfl

/-- The document of a container has that of its readiness probe. -/
theorem get?_readiness : container.toJson.get? "readinessProbe" = some container.readiness.toJson :=
  Json.get?_of_given (by simp) "readinessProbe"

/-- The document of a container has that of its liveness probe. -/
theorem get?_liveness : container.toJson.get? "livenessProbe" = some container.liveness.toJson :=
  Json.get?_of_given (by simp) "livenessProbe"

/-- The document of a container has those of the volumes in it. -/
theorem at?_mounts : container.toJson.at? ["volumeMounts"] =
    Json.ofItems (container.mounts.map VolumeMount.toJson) :=
  (Json.at?_single _ _).trans (Json.get?_of_given (by simp) "volumeMounts")

end Container

/-- The document of a volume has its name. -/
theorem Volume.get?_name (volume : Volume) :
    volume.toJson.get? "name" = some (.string volume.name) := by
  obtain ⟨name, content⟩ := volume
  cases content <;> exact Json.get?_of_members (by simp) "name"

namespace VolumeMount

variable (mount : VolumeMount)

/-- The document of a volume's place has the name of the volume. -/
theorem get?_name : mount.toJson.get? "name" = some (.string mount.name) :=
  Json.get?_of_given (by simp) "name"

/-- The document of a volume's place has the path. -/
theorem get?_path : mount.toJson.get? "mountPath" = some (.string mount.path) :=
  Json.get?_of_given (by simp) "mountPath"

end VolumeMount

/-- The document of a probe has the port of its requests. -/
theorem Probe.at?_port (probe : Probe) : probe.toJson.at? ["httpGet", "port"] =
    match probe.action with
    | .request _ port => some (.ofInt port)
    | .command _ => none := by
  obtain ⟨timing, action⟩ := probe
  cases action with
  | request path port =>
    exact (Json.at?_of_get (Json.get?_of_given (by simp) "httpGet") ["port"]).trans
      (Json.at?_of_get (Json.get?_of_members (by simp) "port") [])
  | command words =>
    have hget : (Probe.toJson ⟨timing, .command words⟩).get? "httpGet" = none :=
      Json.get?_of_given (by simp) "httpGet"
    rw [Json.at?, hget, Option.bind_none]

namespace ServiceSpec

variable (spec : ServiceSpec)

/-- The document of a service's spec has the labels of the pods. -/
theorem at?_selector : spec.toJson.at? ["selector"] = some (Codec.textMap.write spec.selector) :=
  Json.at?_of_get (Json.get?_of_members (by simp) "selector") []

/-- The one port of a service leads to one of the pods. -/
theorem ports_lead : (spec.toJson.itemsAt ["ports"]).map (fun port =>
    (port.get? "port", port.get? "targetPort")) =
      [(some (Json.ofInt spec.port), some (Json.ofInt spec.targetPort))] := by
  have hport : spec.toJson.at? ["ports"] = some (.array [Json.ofMembers [
      ("name", .string "http"), ("protocol", .string "TCP"),
      ("port", .ofInt spec.port), ("targetPort", .ofInt spec.targetPort)]]) :=
    Json.at?_of_get (Json.get?_of_members (by simp) "ports") []
  rw [Json.items_at_of_array hport, List.map_singleton, Json.get?_of_members (by simp),
    Json.get?_of_members (by simp)]
  rfl

end ServiceSpec

/-! ## What is rendered -/

/-- The labels of a function's pods are those by which they are selected and others, whatever labels
the function asks for. -/
theorem workload_labels_selected (function : Function) :
    (selectingLabels function.metadata.displayName).Within
      (Codec.textMap.write (workloadLabels function)) := by
  intro label value hvalue
  rw [Json.get?_text_map, workloadLabels, SortedMap.get?_insert]
  have hlookup : [(functionLabel, Json.string function.metadata.displayName)].lookup label =
      some value := hvalue
  rw [SortedMap.lookup_cons_entry] at hlookup
  split at hlookup
  · next hlabel =>
    rw [if_pos hlabel]
    exact hlookup
  · cases hlookup

namespace WorkloadSettings

/-- A volume has the same name where it is mounted. -/
theorem mounted_names (name : String) (spec : FunctionSpec) :
    (volumes name spec).map (·.2.name) = (volumes name spec).map (·.1.name) := by
  unfold volumes
  split <;> split <;> rfl

/-- The volumes of a function have different names, whatever its name is. -/
theorem volume_names_nodup (name : String) (spec : FunctionSpec) :
    ((volumes name spec).map (·.1.name)).Nodup := by
  -- the second name is longer than the first one, however a function is called
  have hne : "temp" ≠ name ++ "-projected-secrets" := by
    intro heq
    have hlength := congrArg String.length heq
    rw [String.length_append] at hlength
    have hlong : "temp".length < "-projected-secrets".length := by decide
    omega
  unfold volumes
  split <;> split <;> simp [hne]

/-- The volumes of a function are mounted at different paths. -/
theorem mount_paths_nodup (name : String) (spec : FunctionSpec) :
    ((volumes name spec).map (·.2.path)).Nodup := by
  unfold volumes
  split <;> split <;> simp [secretsPath]

/-- The volumes of a function are those that its container mounts. -/
theorem volumes_mounts (name : String) (spec : FunctionSpec) :
    Mounts (((volumes name spec).map (·.1)).map Volume.toJson)
      (((volumes name spec).map (·.2)).map VolumeMount.toJson) where
  names := by
    refine ⟨_, volume_names_nodup name spec, ?_, ?_⟩
    · simp [Volume.get?_name]
    · rw [← mounted_names]
      simp [VolumeMount.get?_name]
  paths := ⟨_, mount_paths_nodup name spec, by simp [VolumeMount.get?_path]⟩

variable (settings : WorkloadSettings)

/-- Probes by requests go to the port of the function's server. -/
theorem probe_port (timing : ProbeTiming) : (settings.probe timing).toJson.at? ["httpGet", "port"] =
    if settings.httpProbe then some (Json.ofInt settings.httpPort) else none := by
  rw [Probe.at?_port]
  cases h : settings.httpProbe <;> simp [probe, h]

/-- The container of a function listens on the port of the settings. -/
theorem container_listens (name : String) (spec : FunctionSpec) :
    Listens (Json.ofInt settings.httpPort) settings.httpProbe
      (settings.container name spec).toJson where
  ports := Container.ports_listen _
  probes := by
    intro probe hprobe
    rcases List.mem_cons.1 hprobe with rfl | hprobe
    · rw [Json.at?_of_get (Container.get?_readiness _)]
      exact settings.probe_port _
    · obtain rfl := List.mem_singleton.1 hprobe
      rw [Json.at?_of_get (Container.get?_liveness _)]
      exact settings.probe_port _

end WorkloadSettings

namespace Deployment

variable {settings : WorkloadSettings} {function : Function} {deployment : Deployment}

/-- The parts of a deployment that the operator decides alone are those of a function. -/
structure Runs (settings : WorkloadSettings) (function : Function) (deployment : Deployment) :
    Prop where
  /-- The spec is rendered. -/
  spec : deployment.spec = some (.rendered (settings.deploymentSpec function))
  /-- The labels are those of the function. -/
  labels : deployment.metadata.labels = some (workloadLabels function)

/-- A new deployment is that of its function. -/
theorem make_runs (settings : WorkloadSettings) (function : Function) :
    (make settings function).Runs settings function := ⟨rfl, rfl⟩

/-- A deployment that was brought up to date is that of the function, whatever it was. -/
theorem converge_runs (settings : WorkloadSettings) (existing : Deployment) (function : Function) :
    (converge settings existing function).Runs settings function :=
  ⟨rfl, by rw [converge_metadata]⟩

/-- A path into the spec of a function's deployment goes on in the document of what is rendered. -/
theorem Runs.at?_spec (h : deployment.Runs settings function) (path : List String) :
    (kind.codec.write deployment).at? ("spec" :: path) =
      (settings.deploymentSpec function).toJson.at? path :=
  Json.at?_of_get ((kind.get?_spec deployment).trans (by rw [h.spec]; rfl)) path

/-- A path into the pods of a function's deployment goes on in the document of the template. -/
theorem Runs.at?_template (h : deployment.Runs settings function) (path : List String) :
    (kind.codec.write deployment).at? ("spec" :: "template" :: path) =
      (settings.deploymentSpec function).template.toJson.at? path :=
  (h.at?_spec _).trans (Json.at?_of_get (DeploymentSpec.get?_template _) path)

/-- The deployment of a function selects its pods by the function's name. -/
theorem Runs.selects (h : deployment.Runs settings function) :
    Selects function.metadata.displayName (kind.codec.write deployment) where
  selector := (h.at?_spec _).trans (DeploymentSpec.at?_selector _)
  pods := ⟨_, (h.at?_template _).trans (PodTemplate.at?_labels _),
    workload_labels_selected function⟩
  labels := by
    refine ⟨_, ?_, workload_labels_selected function⟩
    rw [Json.at?_of_get (kind.get?_metadata deployment), Json.at?_single, Metadata.get?_labels,
      h.labels, Option.map_some]

/-- The deployment of a function fits together with the service of any version of the function. -/
theorem Runs.fits {first : Function} (h : deployment.Runs settings function)
    (hname : function.metadata.displayName = first.metadata.displayName) :
    Fits settings first.metadata.displayName (kind.codec.write deployment)
      (Service.kind.codec.write (Service.make settings first)) where
  selects := hname ▸ h.selects
  selector := (Json.at?_of_get (Service.kind.get?_spec _) _).trans (ServiceSpec.at?_selector _)
  ports := by
    rw [Json.itemsAt, Json.at?_of_get (Service.kind.get?_spec (Service.make settings first))]
    exact ServiceSpec.ports_lead (settings.serviceSpec first)
  container := by
    refine ⟨_, Json.items_at_of_array ((h.at?_template _).trans (PodTemplate.at?_containers _)),
      settings.container_listens _ _, ?_⟩
    rw [Json.items_at_of_items ((h.at?_template _).trans (PodTemplate.at?_volumes _)),
      Json.items_at_of_items (Container.at?_mounts _)]
    exact WorkloadSettings.volumes_mounts _ _

/-! ## Versions -/

/-- A deployment that is brought up to one version of a function after another, each with the
settings of its time. -/
def rollOut (deployment : Deployment) (versions : List (WorkloadSettings × Function)) :
    Deployment :=
  versions.foldl (fun stored version => converge version.1 stored version.2) deployment

/-- In the end a deployment is that of the last version. -/
theorem Runs.roll_out (h : deployment.Runs settings function)
    (versions : List (WorkloadSettings × Function)) :
    (deployment.rollOut versions).Runs (versions.getLastD (settings, function)).1
      (versions.getLastD (settings, function)).2 := by
  induction versions generalizing deployment settings function with
  | nil => exact h
  | cons version versions ih =>
    -- nothing of the version before is needed: each one replaces spec and labels
    rw [List.getLastD_cons]
    exact ih (converge_runs version.1 deployment version.2)

/-- After any versions of the same function the deployment fits together with a service of the
function. -/
theorem Runs.roll_out_fits (h : deployment.Runs settings function)
    {versions : List (WorkloadSettings × Function)} (hnames : ∀ version ∈ versions,
      version.2.metadata.displayName = function.metadata.displayName) :
    Fits (versions.getLastD (settings, function)).1 function.metadata.displayName
      (kind.codec.write (deployment.rollOut versions))
      (Service.kind.codec.write
        (Service.make (versions.getLastD (settings, function)).1 function)) := by
  refine (h.roll_out versions).fits ?_
  have hlast : versions.getLastD (settings, function) ∈ (settings, function) :: versions :=
    List.getLastD_mem_cons
  rcases List.mem_cons.1 hlast with hlast | hlast
  · rw [hlast]
  · exact hnames _ hlast

end Deployment

/-- Whatever a function asks for and however workloads are set, its deployment and its service fit
together, whether the deployment is new or was another one before. They still do so after any
versions of the function, so that its pods are always selected by the same labels. -/
theorem workload_fits (settings : WorkloadSettings) (function : Function) (existing : Deployment)
    {versions : List (WorkloadSettings × Function)} (hnames : ∀ version ∈ versions,
      version.2.metadata.displayName = function.metadata.displayName) :
    ∀ deployment ∈
      [Deployment.make settings function, Deployment.converge settings existing function],
      Fits settings function.metadata.displayName (Deployment.kind.codec.write deployment)
          (Service.kind.codec.write (Service.make settings function)) ∧
        Fits (versions.getLastD (settings, function)).1 function.metadata.displayName
          (Deployment.kind.codec.write (deployment.rollOut versions))
          (Service.kind.codec.write
            (Service.make (versions.getLastD (settings, function)).1 function)) := by
  intro deployment hdeployment
  have hruns : deployment.Runs settings function := by
    rcases List.mem_cons.1 hdeployment with rfl | hdeployment
    · exact Deployment.make_runs settings function
    · obtain rfl := List.mem_singleton.1 hdeployment
      exact Deployment.converge_runs settings existing function
  exact ⟨hruns.fits rfl, hruns.roll_out_fits hnames⟩

/-- A function that asks for another value of the label by which its pods are selected, and for all
volumes that a container can have. -/
def mislabeled : Function where
  metadata := { name := some "echo", space := some "web" }
  spec := {
    name := "echo"
    image := "echo:1"
    labels := some (SortedMap.ofList [(functionLabel, "other"), ("team", "web")])
    secrets := ["token"]
    readOnlyRootFilesystem := true }

/-- A deployment that selects the pods of no function. -/
def selectingNothing : Deployment where
  metadata := { name := some "echo", space := some "web" }
  spec := some (.stored (.object [("selector", .object [])]))
  status := none

/-- The pods of the mislabeled function are selected by its name, also when probes have become
commands on another port. -/
theorem workload_fits_mislabeled :
    let updated := Deployment.converge {} selectingNothing mislabeled
    let versions : List (WorkloadSettings × Function) :=
      [({ httpPort := 9000, httpProbe := false }, mislabeled)]
    let document := Deployment.kind.codec.write (updated.rollOut versions)
    Fits {} "echo" (Deployment.kind.codec.write updated)
        (Service.kind.codec.write (Service.make {} mislabeled)) ∧
      Fits { httpPort := 9000, httpProbe := false } "echo" document
        (Service.kind.codec.write
          (Service.make { httpPort := 9000, httpProbe := false } mislabeled)) ∧
      document.at? ["spec", "template", "metadata", "labels"] =
        some (.object [(functionLabel, .string "echo"), ("team", .string "web")]) ∧
      (document.itemsAt ["spec", "template", "spec", "volumes"]).length = 2 := by
  intro updated versions document
  have hnames : ∀ version ∈ versions, version.2.metadata.displayName = "echo" := by
    simp [versions, mislabeled, Metadata.displayName]
  have hfits := workload_fits {} mislabeled selectingNothing hnames updated (.tail _ (.head _))
  exact ⟨hfits.1, hfits.2, rfl, rfl⟩

end FunctionOperator
