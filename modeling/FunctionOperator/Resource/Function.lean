import FunctionOperator.Resource.Primary
import FunctionOperator.Text.Numeral

/-!
# Functions

A function is a container image with its settings. The operator runs it as a deployment behind a
service of the same name.
-/

namespace FunctionOperator

/-- Quantities of memory and processor time. -/
structure FunctionResources where
  /-- Memory; empty for no quantity. -/
  memory : String := ""
  /-- Processor time; empty for no quantity. -/
  cpu : String := ""
deriving DecidableEq, Inhabited

namespace FunctionResources

/-- The fields of the quantities. -/
def record : Record FunctionResources where
  blank := {}
  fields := [
    .omitted "memory" .string (·.memory) (fun v r => { r with memory := v }) String.isEmpty,
    .omitted "cpu" .string (·.cpu) (fun v r => { r with cpu := v }) String.isEmpty]

/-- The codec of the quantities. -/
def codec : Codec FunctionResources := record.closed

end FunctionResources

/-- What a function asks for. -/
structure FunctionSpec where
  /-- The name, also of the deployment and the service. -/
  name : String := ""
  /-- The container image. -/
  image : String := ""
  /-- The number of replicas. -/
  replicas : Option Int := none
  /-- The process that handles a request. -/
  handler : String := ""
  /-- Annotations of the deployment and its pods. -/
  annotations : Option TextMap := none
  /-- Labels of the deployment and its pods. -/
  labels : Option TextMap := none
  /-- Environment variables of the container. -/
  environment : Option TextMap := none
  /-- Constraints on the nodes. -/
  constraints : List String := []
  /-- Secrets that the container reads. -/
  secrets : List String := []
  /-- The most that the container may use. -/
  limits : Option FunctionResources := none
  /-- What is set aside for the container. -/
  requests : Option FunctionResources := none
  /-- Whether the container may not write to its root file system. -/
  readOnlyRootFilesystem : Bool := false
deriving DecidableEq, Inhabited

namespace FunctionSpec

/-- The fields of a spec. -/
def record : Record FunctionSpec where
  blank := {}
  fields := [
    .required "name" .string (·.name) fun v r => { r with name := v },
    .required "image" .string (·.image) fun v r => { r with image := v },
    .maybe "replicas" .int32 (·.replicas) fun v r => { r with replicas := v },
    .omitted "handler" .string (·.handler) (fun v r => { r with handler := v }) String.isEmpty,
    .maybe "annotations" .textMap (·.annotations) fun v r => { r with annotations := v },
    .maybe "labels" .textMap (·.labels) fun v r => { r with labels := v },
    .maybe "environment" .textMap (·.environment) fun v r => { r with environment := v },
    .omitted "constraints" (.list .string) (·.constraints)
      (fun v r => { r with constraints := v }) List.isEmpty,
    .omitted "secrets" (.list .string) (·.secrets)
      (fun v r => { r with secrets := v }) List.isEmpty,
    .maybe "limits" FunctionResources.codec (·.limits) fun v r => { r with limits := v },
    .maybe "requests" FunctionResources.codec (·.requests) fun v r => { r with requests := v },
    .omitted "readOnlyRootFilesystem" .bool (·.readOnlyRootFilesystem)
      (fun v r => { r with readOnlyRootFilesystem := v }) (!·)]

/-- The codec of specs. -/
def codec : Codec FunctionSpec := record.closed

/-- The number of replicas, one if none is given. -/
def replicaCount (spec : FunctionSpec) : Int := spec.replicas.getD 1

end FunctionSpec

/-- A function. -/
abbrev Function := Primary FunctionSpec

namespace Function

/-- The kind of functions. -/
def kind : PrimaryKind FunctionSpec where
  apiVersion := "openfaas.com/v1alpha2"
  kind := "Function"
  plural := "functions"
  spec := FunctionSpec.codec
  blank := {}
  snapshotKey := "com.openfaas.function.spec"

/-- The label that asks for a least number of replicas. -/
def minScaleLabel : String := "com.openfaas.scale.min"

/-- The least number of replicas: what the label says if that is positive, otherwise one. -/
def minReplicas (labels : Option TextMap) : Int :=
  let wanted := do
    let value ← (← labels).get? minScaleLabel
    Text.readInt32? (Text.trim value)
  (wanted.filter (0 < ·)).getD 1

end Function

end FunctionOperator
