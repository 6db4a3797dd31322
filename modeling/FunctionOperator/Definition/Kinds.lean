import FunctionOperator.Definition.Resource
import FunctionOperator.Definition.Yaml
import FunctionOperator.Resource.Function
import FunctionOperator.Resource.FunctionIngress

/-!
# The definitions of function ingresses and functions
-/

namespace FunctionOperator

namespace FunctionIngress

/-- The schema of certificate settings. -/
def tlsSchema : Schema :=
  .record [
    ("enabled", .flag { fallback := some (.bool false) }),
    ("issuerRef", .record [
      ("kind", .text "Kind of the referenced object (e.g. \"Issuer\", \"ClusterIssuer\")"),
      ("name", .single "string" none {
        description := some "Name of the referenced object", fallback := some (.string "") })]
      [] {
        description := some "cert-manager issuer used to obtain the certificate"
        fallback := some (.object [("name", .string "")]) })]
    [] { description := some "Enable TLS via cert-manager", nullable := true }

/-- The fields that both versions have. -/
def sharedFields : List (String × Schema) := [
  ("domain", .text "Domain such as \"api.example.com\""),
  ("function", .text "Function such as \"nodeinfo\""),
  ("ingressType", .text "IngressType such as \"nginx\""),
  ("tls", tlsSchema)]

/-- The fields of the current version only. -/
def addedFields : List (String × Schema) := [
  ("functionNamespace", .text
    "Namespace of the function when it is not deployed to the default\nfunction namespace"),
  ("path", .text "Path such as \"/v1/profiles/view/(.*)\", or leave empty for default"),
  ("bypassGateway", .flag { description := some (
    "When true, route straight to the function's own service instead of\n" ++
    "going through the gateway") })]

/-- The definition with one version of specs. -/
def definitionOf (version : String) (fields : List (String × Schema)) : ResourceDefinition where
  group := "openfaas.com"
  kind := kind.kind
  plural := kind.plural
  singular := "functioningress"
  shortNames := ["fni"]
  versions := [{
    name := version
    column := ("Domain", ".spec.domain")
    spec := .record fields ["domain", "function"] {} }]

/-- The definition of the current version. -/
def definition : ResourceDefinition := definitionOf "v1" (sharedFields ++ addedFields)

/-- The definition of the earlier version. -/
def earlierDefinition : ResourceDefinition := definitionOf "v1alpha2" sharedFields

/-- The definition of both versions. -/
def mergedDefinition (stored : String) : Except String ResourceDefinition :=
  ResourceDefinition.merge [definition, earlierDefinition] stored

end FunctionIngress

namespace Function

/-- The schema of maps of texts that may be missing. -/
def textMapSchema (description : Option String) : Schema :=
  .map .plainText { description := description, nullable := true }

/-- The schema of lists of texts. -/
def textsSchema (description : String) : Schema :=
  .list .plainText { description := some description }

/-- The schema of quantities. -/
def resourcesSchema : Schema :=
  .record [("cpu", .plainText), ("memory", .plainText)] [] {
    description := some "CPU and memory quantities for limits and requests", nullable := true }

/-- The definition of functions. -/
def definition : ResourceDefinition where
  group := "openfaas.com"
  kind := kind.kind
  plural := kind.plural
  singular := "function"
  shortNames := []
  versions := [{
    name := "v1alpha2"
    column := ("Image", ".spec.image")
    spec := .record [
      ("name", .text "Function name, also used for the Deployment and Service"),
      ("image", .text "Container image"),
      ("replicas", .single "integer" (some "int32") {
        description := some "Desired replica count (defaults to 1)", nullable := true }),
      ("handler", .text "Process the watchdog forks for each request (`fprocess`)"),
      ("annotations", textMapSchema none),
      ("labels", textMapSchema none),
      ("environment", textMapSchema (some "Environment variables for the function container")),
      ("constraints", textsSchema "Scheduling constraints in `key=value` form"),
      ("secrets", textsSchema "Names of secrets mounted under /var/openfaas/secrets"),
      ("limits", resourcesSchema),
      ("requests", resourcesSchema),
      ("readOnlyRootFilesystem", .flag {})]
      ["image", "name"] {} }]

end Function

/-- The definitions of all kinds as a stream of documents. -/
def definitionStream : Except String String := do
  let ingresses ← FunctionIngress.mergedDefinition "v1"
  return ingresses.toJson.toYaml ++ "---\n" ++ Function.definition.toJson.toYaml

end FunctionOperator
