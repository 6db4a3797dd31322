import FunctionOperator.Resource.Primary

/-!
# Function ingresses

A function ingress exposes a function on a domain. Two revisions of its spec are served; the
earlier one lacks the path, the function's namespace and the bypass of the gateway. Both use the
same field names, so that a document of one revision reads as the other.
-/

namespace FunctionOperator

/-- A reference to an object by name and kind. -/
structure ObjectReference where
  /-- The name. -/
  name : String := ""
  /-- The kind. -/
  kind : String := ""
deriving DecidableEq, Inhabited

namespace ObjectReference

/-- The kind of issuers of the whole cluster. -/
def clusterIssuerKind : String := "ClusterIssuer"

/-- A reference to an issuer of a namespace. -/
def issuer (name : String) : ObjectReference := ⟨name, "Issuer"⟩

/-- A reference to an issuer of the whole cluster. -/
def clusterIssuer (name : String) : ObjectReference := ⟨name, clusterIssuerKind⟩

/-- Whether the reference points to an issuer of the whole cluster. -/
def isClusterScoped (reference : ObjectReference) : Bool := reference.kind == clusterIssuerKind

/-- The fields of a reference. -/
def record : Record ObjectReference where
  blank := {}
  fields := [
    .defaulted "name" .string (·.name) fun v r => { r with name := v },
    .omitted "kind" .string (·.kind) (fun v r => { r with kind := v }) String.isEmpty]

/-- The codec of references. -/
def codec : Codec ObjectReference := record.closed

end ObjectReference

/-- How a function ingress is encrypted. -/
structure TlsOptions where
  /-- Whether it is. -/
  enabled : Bool := false
  /-- Who issues the certificate. -/
  issuerRef : ObjectReference := {}
deriving DecidableEq, Inhabited

namespace TlsOptions

/-- The fields of the options. -/
def record : Record TlsOptions where
  blank := {}
  fields := [
    .defaulted "enabled" .bool (·.enabled) fun v r => { r with enabled := v },
    .defaulted "issuerRef" ObjectReference.codec (·.issuerRef)
      fun v r => { r with issuerRef := v }]

/-- The codec of the options. -/
def codec : Codec TlsOptions := record.closed

end TlsOptions

/-- What a function ingress asks for. -/
structure FunctionIngressSpec where
  /-- The domain. -/
  domain : String := ""
  /-- The function. -/
  function : String := ""
  /-- The namespace of the function; empty for the default one. -/
  functionNamespace : String := ""
  /-- The path; empty for the default one. -/
  path : String := ""
  /-- The class of the ingress; empty for the default one. -/
  ingressType : String := ""
  /-- Encryption. -/
  tls : Option TlsOptions := none
  /-- Whether requests go to the function's own service instead of the gateway. -/
  bypassGateway : Bool := false
deriving DecidableEq, Inhabited

namespace FunctionIngressSpec

/-- The fields of a spec. -/
def record : Record FunctionIngressSpec where
  blank := {}
  fields := [
    .required "domain" .string (·.domain) fun v r => { r with domain := v },
    .required "function" .string (·.function) fun v r => { r with function := v },
    .omitted "functionNamespace" .string (·.functionNamespace)
      (fun v r => { r with functionNamespace := v }) String.isEmpty,
    .omitted "path" .string (·.path) (fun v r => { r with path := v }) String.isEmpty,
    .omitted "ingressType" .string (·.ingressType)
      (fun v r => { r with ingressType := v }) String.isEmpty,
    .maybe "tls" TlsOptions.codec (·.tls) fun v r => { r with tls := v },
    .omitted "bypassGateway" .bool (·.bypassGateway)
      (fun v r => { r with bypassGateway := v }) (!·)]

/-- The codec of specs. -/
def codec : Codec FunctionIngressSpec := record.closed

end FunctionIngressSpec

/-- What a function ingress of the earlier revision asks for. -/
structure EarlierFunctionIngressSpec where
  /-- The domain. -/
  domain : String := ""
  /-- The function. -/
  function : String := ""
  /-- The class of the ingress; empty for the default one. -/
  ingressType : String := ""
  /-- Encryption. -/
  tls : Option TlsOptions := none
deriving DecidableEq, Inhabited

namespace EarlierFunctionIngressSpec

/-- The fields of a spec. -/
def record : Record EarlierFunctionIngressSpec where
  blank := {}
  fields := [
    .required "domain" .string (·.domain) fun v r => { r with domain := v },
    .required "function" .string (·.function) fun v r => { r with function := v },
    .omitted "ingressType" .string (·.ingressType)
      (fun v r => { r with ingressType := v }) String.isEmpty,
    .maybe "tls" TlsOptions.codec (·.tls) fun v r => { r with tls := v }]

/-- The codec of specs. -/
def codec : Codec EarlierFunctionIngressSpec := record.closed

end EarlierFunctionIngressSpec

/-- A function ingress. -/
abbrev FunctionIngress := Primary FunctionIngressSpec

namespace FunctionIngress

/-- The kind of function ingresses. -/
def kind : PrimaryKind FunctionIngressSpec where
  apiVersion := "openfaas.com/v1"
  kind := "FunctionIngress"
  plural := "functioningresses"
  spec := FunctionIngressSpec.codec
  blank := {}
  snapshotKey := "com.openfaas.spec"

/-- The kind of function ingresses of the earlier revision. -/
def earlierKind : PrimaryKind EarlierFunctionIngressSpec where
  apiVersion := "openfaas.com/v1alpha2"
  kind := "FunctionIngress"
  plural := "functioningresses"
  spec := EarlierFunctionIngressSpec.codec
  blank := {}
  snapshotKey := "com.openfaas.spec"

end FunctionIngress

end FunctionOperator
