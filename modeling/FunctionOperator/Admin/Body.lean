import FunctionOperator.Resource.Function

/-!
# Bodies of the admin API

What clients send to the admin API and what it sends back. All are closed records.
-/

namespace FunctionOperator

/-- A client's wish for a function. -/
structure DeploymentRequest where
  /-- The name of the function. -/
  service : String := ""
  /-- The container image. -/
  image : String := ""
  /-- The process that handles a request. -/
  envProcess : String := ""
  /-- Environment variables. -/
  envVars : TextMap := ∅
  /-- Labels. -/
  labels : Option TextMap := none
  /-- Annotations. -/
  annotations : Option TextMap := none
  /-- Constraints on the nodes. -/
  constraints : List String := []
  /-- Secrets that the container reads. -/
  secrets : List String := []
  /-- The most that the container may use. -/
  limits : Option FunctionResources := none
  /-- What is set aside for the container. -/
  requests : Option FunctionResources := none
  /-- Whether the container may not write to its root file system. -/
  readOnlyRootFilesystem : Bool := false
deriving DecidableEq

namespace DeploymentRequest

/-- The fields of the request. -/
def record : Record DeploymentRequest where
  blank := {}
  fields := [
    .required "service" .string (·.service) fun v r => { r with service := v },
    .required "image" .string (·.image) fun v r => { r with image := v },
    .defaulted "envProcess" .string (·.envProcess) fun v r => { r with envProcess := v },
    .defaulted "envVars" .textMap (·.envVars) fun v r => { r with envVars := v },
    .defaulted "labels" Codec.textMap.option (·.labels) fun v r => { r with labels := v },
    .defaulted "annotations" Codec.textMap.option (·.annotations)
      fun v r => { r with annotations := v },
    .defaulted "constraints" (.list .string) (·.constraints)
      fun v r => { r with constraints := v },
    .defaulted "secrets" (.list .string) (·.secrets) fun v r => { r with secrets := v },
    .defaulted "limits" FunctionResources.codec.option (·.limits)
      fun v r => { r with limits := v },
    .defaulted "requests" FunctionResources.codec.option (·.requests)
      fun v r => { r with requests := v },
    .defaulted "readOnlyRootFilesystem" .bool (·.readOnlyRootFilesystem)
      fun v r => { r with readOnlyRootFilesystem := v }]

/-- The codec of the request. -/
def codec : Codec DeploymentRequest := record.closed

/-- The function that the request asks for in a namespace. -/
def toFunction (request : DeploymentRequest) (space : String) : Function where
  metadata := { name := some request.service, space := some space }
  spec := {
    name := request.service
    image := request.image
    replicas := some (Function.minReplicas request.labels)
    handler := request.envProcess
    annotations := request.annotations
    labels := request.labels
    environment := some request.envVars
    constraints := request.constraints
    secrets := request.secrets
    limits := request.limits
    requests := request.requests
    readOnlyRootFilesystem := request.readOnlyRootFilesystem }

end DeploymentRequest

/-- What a client is told about a function. -/
structure FunctionStatus where
  /-- The name. -/
  name : String := ""
  /-- The container image. -/
  image : String := ""
  /-- The namespace. -/
  space : String := ""
  /-- The number of wanted replicas. -/
  replicas : Nat := 0
  /-- The number of replicas that answer requests. -/
  availableReplicas : Nat := 0
  /-- Labels. -/
  labels : Option TextMap := none
  /-- Annotations. -/
  annotations : Option TextMap := none
deriving DecidableEq

namespace FunctionStatus

/-- The fields of the status. -/
def record : Record FunctionStatus where
  blank := {}
  fields := [
    .required "name" .string (·.name) fun v r => { r with name := v },
    .required "image" .string (·.image) fun v r => { r with image := v },
    .required "namespace" .string (·.space) fun v r => { r with space := v },
    .required "replicas" .nat64 (·.replicas) fun v r => { r with replicas := v },
    .required "availableReplicas" .nat64 (·.availableReplicas)
      fun v r => { r with availableReplicas := v },
    .optional "labels" .textMap (·.labels) fun v r => { r with labels := v },
    .optional "annotations" .textMap (·.annotations) fun v r => { r with annotations := v }]

/-- The codec of the status. -/
def codec : Codec FunctionStatus := record.closed

end FunctionStatus

/-- A client's wish to delete a function. -/
structure DeletionRequest where
  /-- The name of the function. -/
  functionName : String := ""
deriving DecidableEq

namespace DeletionRequest

/-- The codec of the request. -/
def codec : Codec DeletionRequest :=
  (⟨{}, [.required "functionName" .string (·.functionName)
    fun v r => { r with functionName := v }]⟩ : Record DeletionRequest).closed

end DeletionRequest

/-- A client's wish for a number of replicas. -/
structure ScaleRequest where
  /-- The name of the function, which is not looked at. -/
  serviceName : String := ""
  /-- The number of replicas. -/
  replicas : Nat := 0
deriving DecidableEq

namespace ScaleRequest

/-- The fields of the request. -/
def record : Record ScaleRequest where
  blank := {}
  fields := [
    .defaulted "serviceName" .string (·.serviceName) fun v r => { r with serviceName := v },
    .required "replicas" .nat64 (·.replicas) fun v r => { r with replicas := v }]

/-- The codec of the request. -/
def codec : Codec ScaleRequest := record.closed

end ScaleRequest

/-- What was built. -/
structure ProviderVersion where
  /-- The commit. -/
  sha : String := ""
  /-- The release. -/
  release : String := ""
deriving DecidableEq

namespace ProviderVersion

/-- The fields of the version. -/
def record : Record ProviderVersion where
  blank := {}
  fields := [
    .required "sha" .string (·.sha) fun v r => { r with sha := v },
    .required "release" .string (·.release) fun v r => { r with release := v }]

/-- The codec of the version. -/
def codec : Codec ProviderVersion := record.closed

end ProviderVersion

/-- What a client is told about the operator. -/
structure ProviderInfo where
  /-- The kind of cluster. -/
  orchestration : String := ""
  /-- The name of the operator. -/
  provider : String := ""
  /-- What was built. -/
  version : ProviderVersion := {}
deriving DecidableEq

namespace ProviderInfo

/-- The fields of the information. -/
def record : Record ProviderInfo where
  blank := {}
  fields := [
    .required "orchestration" .string (·.orchestration)
      fun v r => { r with orchestration := v },
    .required "provider" .string (·.provider) fun v r => { r with provider := v },
    .required "version" ProviderVersion.codec (·.version) fun v r => { r with version := v }]

/-- The codec of the information. -/
def codec : Codec ProviderInfo := record.closed

/-- What the operator tells about itself. -/
def current : ProviderInfo := ⟨"kubernetes", "ingress-operator", ⟨"unknown", "0.1.0"⟩⟩

end ProviderInfo

end FunctionOperator
