import FunctionOperator.Ownership
import FunctionOperator.Resource.Function
import FunctionOperator.Settings
import FunctionOperator.Snapshot

/-!
# The workload of a function

The deployment and the service that run a function, as far as the operator decides them. Read
`deploymentSpec` and `serviceSpec` first. Names, labels and ports that have to agree between the
parts come from one definition each.
-/

namespace FunctionOperator

/-- The label that selects the pods of one function. -/
def functionLabel : String := "faas_function"

/-- The path that tells whether a function's server is healthy. -/
def healthPath : String := "/_/health"

/-- The file whose presence tells whether a function's server is healthy. -/
def lockFile : String := "/tmp/.lock"

/-- Where a container finds its secrets. -/
def secretsPath : String := "/var/openfaas/secrets"

/-- The unprivileged user. -/
def unprivilegedUser : Int := 12000

/-- An environment variable. -/
structure EnvVar where
  /-- The name. -/
  name : String
  /-- The value. -/
  value : String
deriving DecidableEq

/-- What a probe does. -/
inductive ProbeAction where
  /-- It requests a path. -/
  | request (path : String) (port : Int)
  /-- It runs a command. -/
  | command (words : List String)
deriving DecidableEq

/-- A probe of a container. -/
structure Probe where
  /-- When it happens. -/
  timing : ProbeTiming
  /-- What it does. -/
  action : ProbeAction
deriving DecidableEq

/-- What a volume holds. -/
inductive VolumeContent where
  /-- An empty directory. -/
  | emptyDirectory
  /-- Secrets. -/
  | secrets (names : List String)
deriving DecidableEq

/-- A volume of a pod. -/
structure Volume where
  /-- The name. -/
  name : String
  /-- What it holds. -/
  content : VolumeContent
deriving DecidableEq

/-- The place of a volume in a container. -/
structure VolumeMount where
  /-- The volume. -/
  name : String
  /-- The path. -/
  path : String
  /-- Whether the container may only read it. -/
  readOnly : Bool
deriving DecidableEq

/-- Quantities by resource. -/
structure Quantities where
  /-- The most that may be used. -/
  limits : Option TextMap
  /-- What is set aside. -/
  requests : Option TextMap
deriving DecidableEq

/-- Restrictions of a container. -/
structure ContainerSecurity where
  /-- Whether the root file system may only be read. -/
  readOnlyRootFilesystem : Bool
  /-- The user. -/
  runAsUser : Option Int
deriving DecidableEq

/-- A container. -/
structure Container where
  /-- The name. -/
  name : String
  /-- The image. -/
  image : String
  /-- When the image is fetched. -/
  imagePullPolicy : String
  /-- The port. -/
  port : Int
  /-- The environment. -/
  env : List EnvVar
  /-- The quantities. -/
  resources : Option Quantities
  /-- When it may receive requests. -/
  readiness : Probe
  /-- When it has to be started anew. -/
  liveness : Probe
  /-- The restrictions. -/
  security : Option ContainerSecurity
  /-- The volumes in it. -/
  mounts : List VolumeMount
deriving DecidableEq

/-- The template of a deployment's pods. -/
structure PodTemplate where
  /-- The name. -/
  name : String
  /-- The labels. -/
  labels : TextMap
  /-- The annotations. -/
  annotations : Option TextMap
  /-- The container. -/
  container : Container
  /-- The nodes that pods may run on. -/
  nodeSelector : Option TextMap
  /-- The volumes. -/
  volumes : List Volume
deriving DecidableEq

/-- What the operator decides of a deployment. -/
structure DeploymentSpec where
  /-- The number of pods. -/
  replicas : Int
  /-- The labels of its pods. -/
  selector : TextMap
  /-- The pods. -/
  template : PodTemplate
deriving DecidableEq

/-- What the operator decides of a service. -/
structure ServiceSpec where
  /-- The labels of its pods. -/
  selector : TextMap
  /-- The port. -/
  port : Int
  /-- The port of the pods. -/
  targetPort : Int
deriving DecidableEq

/-! ## Parts -/

namespace FunctionSpec

/-- The environment: the handler first, then the variables in the order of their names. -/
def environmentVariables (spec : FunctionSpec) : List EnvVar :=
  let handler := if spec.handler.isEmpty then [] else [EnvVar.mk "fprocess" spec.handler]
  handler ++ (spec.environment.getD ∅).entries.map fun entry => ⟨entry.1, entry.2⟩

end FunctionSpec

namespace FunctionResources

/-- The quantities that are given. -/
def quantities? (resources : FunctionResources) : Option TextMap :=
  let given := [("memory", resources.memory), ("cpu", resources.cpu)].filter fun entry =>
    !entry.2.isEmpty
  if given.isEmpty then none else some (SortedMap.ofList given)

end FunctionResources

namespace FunctionSpec

/-- The container's quantities, if any is given. -/
def quantities? (spec : FunctionSpec) : Option Quantities :=
  let limits := spec.limits.bind FunctionResources.quantities?
  let requests := spec.requests.bind FunctionResources.quantities?
  if limits.isNone && requests.isNone then none else some ⟨limits, requests⟩

end FunctionSpec

/-- The label and its value that a constraint asks for: the texts around its first equals sign,
without blanks around them. -/
def constraint? (constraint : String) : Option (String × String) :=
  let cs := constraint.toList
  match cs.dropWhile (· != '=') with
  | [] => none
  | _ :: value =>
    match Text.trimChars (cs.takeWhile (· != '=')) with
    | [] => none
    | key => some (String.ofList key, String.ofList (Text.trimChars value))

/-- The labels of the nodes that constraints ask for; later constraints win, and what is no
constraint is passed over. -/
def nodeSelector? (constraints : List String) : Option TextMap :=
  let wanted := constraints.filterMap constraint?
  if wanted.isEmpty then none else some (SortedMap.ofList wanted)

/-- The number of constraints that are passed over. -/
def ignoredConstraints (constraints : List String) : Nat :=
  constraints.countP fun constraint => (constraint? constraint).isNone

/-- The labels that select the pods of a function. -/
def selectorLabels (name : String) : TextMap :=
  SortedMap.ofList [(functionLabel, name)]

/-- The labels of a function's deployment and pods. -/
def workloadLabels (function : Function) : TextMap :=
  (function.spec.labels.getD ∅).insert functionLabel function.metadata.displayName

/-- The annotations of a function's deployment; the snapshot comes last. -/
def deploymentAnnotations (function : Function) : TextMap :=
  ((SortedMap.ofList [("prometheus.io.scrape", "false")]).overlay
    (function.spec.annotations.getD ∅)).insert Function.kind.snapshotKey
    ((Snapshot.capture function).encode Function.kind)

namespace WorkloadSettings

/-- A probe of a function's container. -/
def probe (settings : WorkloadSettings) (timing : ProbeTiming) : Probe where
  timing := timing
  action :=
    if settings.httpProbe then .request healthPath settings.httpPort
    else .command ["cat", lockFile]

/-- The volumes of a function's pods and their places in the container: a scratch directory if
the root file system may only be read, and the secrets if there are any. -/
def volumes (name : String) (spec : FunctionSpec) : List (Volume × VolumeMount) :=
  (if spec.readOnlyRootFilesystem then
    [(⟨"temp", .emptyDirectory⟩, ⟨"temp", "/tmp", false⟩)]
  else []) ++
  (if spec.secrets.isEmpty then []
  else
    let volume := name ++ "-projected-secrets"
    [(⟨volume, .secrets spec.secrets⟩, ⟨volume, secretsPath, true⟩)])

/-- The restrictions of a function's container. -/
def security (settings : WorkloadSettings) (spec : FunctionSpec) : Option ContainerSecurity :=
  if spec.readOnlyRootFilesystem || settings.nonRootUser then
    some ⟨spec.readOnlyRootFilesystem, if settings.nonRootUser then some unprivilegedUser else none⟩
  else none

/-- The container of a function. -/
def container (settings : WorkloadSettings) (name : String) (spec : FunctionSpec) : Container where
  name := name
  image := spec.image
  imagePullPolicy := settings.imagePullPolicy
  port := settings.httpPort
  env := spec.environmentVariables
  resources := spec.quantities?
  readiness := settings.probe settings.readiness
  liveness := settings.probe settings.liveness
  security := settings.security spec
  mounts := (volumes name spec).map (·.2)

/-- What the operator decides of a function's deployment. -/
def deploymentSpec (settings : WorkloadSettings) (function : Function) : DeploymentSpec :=
  let name := function.metadata.displayName
  { replicas := function.spec.replicaCount
    selector := selectorLabels name
    template := {
      name := name
      labels := workloadLabels function
      annotations := function.spec.annotations
      container := settings.container name function.spec
      nodeSelector := nodeSelector? function.spec.constraints
      volumes := (volumes name function.spec).map (·.1) } }

/-- What the operator decides of a function's service. -/
def serviceSpec (settings : WorkloadSettings) (function : Function) : ServiceSpec where
  selector := selectorLabels function.metadata.displayName
  port := settings.httpPort
  targetPort := settings.httpPort

end WorkloadSettings

/-! ## Documents -/

/-- An object of the members that are given. -/
def Json.ofGiven (members : List (String × Option Json)) : Json :=
  Json.ofMembers (members.filterMap fun entry => entry.2.map (entry.1, ·))

namespace Probe

/-- The document of a probe. -/
def toJson (probe : Probe) : Json :=
  Json.ofGiven [
    ("initialDelaySeconds", some (.ofInt probe.timing.initialDelay)),
    ("timeoutSeconds", some (.ofInt probe.timing.timeout)),
    ("periodSeconds", some (.ofInt probe.timing.period)),
    match probe.action with
    | .request path port =>
      ("httpGet", some (Json.ofMembers [("path", .string path), ("port", .ofInt port)]))
    | .command words =>
      ("exec", some (Json.ofMembers [("command", .array (words.map .string))]))]

end Probe

namespace Quantities

/-- The document of quantities. -/
def toJson (quantities : Quantities) : Json :=
  Json.ofGiven [
    ("limits", quantities.limits.map Codec.textMap.write),
    ("requests", quantities.requests.map Codec.textMap.write)]

end Quantities

namespace Volume

/-- The document of a volume. -/
def toJson (volume : Volume) : Json :=
  Json.ofMembers [
    ("name", .string volume.name),
    match volume.content with
    | .emptyDirectory => ("emptyDir", .object [])
    | .secrets names =>
      ("projected", Json.ofMembers [("sources", .array (names.map fun name =>
        Json.ofMembers [("secret", Json.ofMembers [("name", .string name)])]))])]

end Volume

namespace VolumeMount

/-- The document of a volume's place. -/
def toJson (mount : VolumeMount) : Json :=
  Json.ofGiven [
    ("mountPath", some (.string mount.path)),
    ("name", some (.string mount.name)),
    ("readOnly", if mount.readOnly then some (.bool true) else none)]

end VolumeMount

/-- A list, unless it is empty. -/
def Json.ofItems (items : List Json) : Option Json :=
  if items.isEmpty then none else some (.array items)

namespace Container

/-- The document of a container. -/
def toJson (container : Container) : Json :=
  Json.ofGiven [
    ("name", some (.string container.name)),
    ("image", some (.string container.image)),
    ("imagePullPolicy", some (.string container.imagePullPolicy)),
    ("ports", some (.array [Json.ofMembers [
      ("containerPort", .ofInt container.port), ("protocol", .string "TCP")]])),
    ("env", some (.array (container.env.map fun entry =>
      Json.ofMembers [("name", .string entry.name), ("value", .string entry.value)]))),
    ("resources", container.resources.map Quantities.toJson),
    ("readinessProbe", some container.readiness.toJson),
    ("livenessProbe", some container.liveness.toJson),
    ("securityContext", container.security.map fun security =>
      Json.ofGiven [
        ("readOnlyRootFilesystem", some (.bool security.readOnlyRootFilesystem)),
        ("runAsUser", security.runAsUser.map .ofInt)]),
    ("volumeMounts", Json.ofItems (container.mounts.map VolumeMount.toJson))]

end Container

namespace PodTemplate

/-- The document of a template. -/
def toJson (template : PodTemplate) : Json :=
  Json.ofMembers [
    ("metadata", Json.ofGiven [
      ("name", some (.string template.name)),
      ("labels", some (Codec.textMap.write template.labels)),
      ("annotations", template.annotations.map Codec.textMap.write)]),
    ("spec", Json.ofGiven [
      ("containers", some (.array [template.container.toJson])),
      ("nodeSelector", template.nodeSelector.map Codec.textMap.write),
      ("volumes", Json.ofItems (template.volumes.map Volume.toJson))])]

end PodTemplate

namespace DeploymentSpec

/-- The document of a deployment's spec; pods are replaced one by one, and new ones come first. -/
def toJson (spec : DeploymentSpec) : Json :=
  Json.ofMembers [
    ("replicas", .ofInt spec.replicas),
    ("selector", Json.ofMembers [("matchLabels", Codec.textMap.write spec.selector)]),
    ("strategy", Json.ofMembers [
      ("type", .string "RollingUpdate"),
      ("rollingUpdate", Json.ofMembers [
        ("maxSurge", .ofInt 1), ("maxUnavailable", .ofInt 0)])]),
    ("template", spec.template.toJson)]

end DeploymentSpec

namespace ServiceSpec

/-- The document of a service's spec. -/
def toJson (spec : ServiceSpec) : Json :=
  Json.ofMembers [
    ("type", .string "ClusterIP"),
    ("selector", Codec.textMap.write spec.selector),
    ("ports", .array [Json.ofMembers [
      ("name", .string "http"), ("protocol", .string "TCP"),
      ("port", .ofInt spec.port), ("targetPort", .ofInt spec.targetPort)]])]

end ServiceSpec

end FunctionOperator
