import FunctionOperator.Ownership
import FunctionOperator.Resource.FunctionIngress
import FunctionOperator.Snapshot

/-!
# The ingress of a function ingress

What the operator wants of the ingress that a function ingress asks for, independent of the API
that serves ingresses. Read `desiredIngress` first.
-/

namespace FunctionOperator

/-- The service that every route goes to unless it bypasses the gateway. -/
def gatewayService : String := "gateway"

/-- The port of the gateway and of functions' services. -/
def workloadPort : Int := 8080

namespace IngressKey

/-- The class of an ingress. -/
def ingressClass : String := "kubernetes.io/ingress.class"
/-- The path at the gateway, for the class `nginx`. -/
def nginxTarget : String := "nginx.ingress.kubernetes.io/rewrite-target"
/-- The path at the gateway, for the class `skipper`. -/
def skipperFilter : String := "zalando.org/skipper-filter"
/-- The path at the gateway, for the class `traefik`. -/
def traefikTarget : String := "traefik.ingress.kubernetes.io/rewrite-target"
/-- How the class `traefik` matches paths. -/
def traefikRuleType : String := "traefik.ingress.kubernetes.io/rule-type"
/-- The issuer of certificates for the whole cluster. -/
def clusterIssuer : String := "cert-manager.io/cluster-issuer"
/-- The issuer of certificates for a namespace. -/
def issuer : String := "cert-manager.io/issuer"

/-- The annotations that only some specs lead to. -/
def conditional : List String :=
  [nginxTarget, skipperFilter, traefikTarget, traefikRuleType, clusterIssuer, issuer]

end IngressKey

/-- A route from a host and a path to a service. -/
structure RoutingRule where
  /-- The host. -/
  host : String
  /-- The path. -/
  path : String
  /-- The service. -/
  service : String
  /-- The port of the service. -/
  port : Int
deriving DecidableEq

/-- A certificate and the hosts it covers. -/
structure TlsEntry where
  /-- The secret that holds the certificate. -/
  secretName : String
  /-- The hosts. -/
  hosts : List String
deriving DecidableEq

/-- What the operator controls of an ingress. -/
structure DesiredIngress where
  /-- The name. -/
  name : String
  /-- The namespace. -/
  space : String
  /-- The annotations. -/
  annotations : TextMap
  /-- The owners. -/
  owners : List OwnerReference
  /-- The routes. -/
  rules : List RoutingRule
  /-- The certificates. -/
  tls : List TlsEntry
deriving DecidableEq

namespace FunctionIngressSpec

/-- The class of the ingress; `nginx` if none is given. -/
def ingressClass (spec : FunctionIngressSpec) : String :=
  if spec.ingressType.isEmpty then "nginx" else spec.ingressType

/-- Whether a class knows only starts of paths and no patterns. -/
def isStartOnly (ingressClass : String) : Bool := ingressClass == "traefik"

/-- The characters of a pattern that a class without patterns does not want at the end. -/
def isPatternTail (c : Char) : Bool := c = '/' || c = '(' || c = '.' || c = '*' || c = ')'

/-- The path that is asked for: an explicit one, the root behind the gateway's back, or all. -/
def wantedPath (spec : FunctionIngressSpec) : String :=
  if !spec.path.isEmpty then spec.path
  else if spec.bypassGateway then "/"
  else "/(.*)"

/-- The path of the route. A class that knows only starts of paths gets the wanted path without a
pattern's tail. -/
def resolvedPath (spec : FunctionIngressSpec) : String :=
  let path := spec.wantedPath
  if !isStartOnly spec.ingressClass then path
  else
    match Text.dropTail isPatternTail path.toList with
    | [] => "/"
    | trimmed => String.ofList trimmed

/-- How the gateway addresses the function: its name, and its namespace if one is given. -/
def functionAddress (spec : FunctionIngressSpec) : String :=
  if spec.functionNamespace.isEmpty then spec.function
  else spec.function ++ "." ++ spec.functionNamespace

/-- The service of the route: the function's own one when the gateway is bypassed. -/
def targetService (spec : FunctionIngressSpec) : String :=
  if spec.bypassGateway then spec.function else gatewayService

/-- The routes. -/
def routingRules (spec : FunctionIngressSpec) : List RoutingRule :=
  [⟨spec.domain, spec.resolvedPath, spec.targetService, workloadPort⟩]

/-- Whether the ingress is encrypted. -/
def usesTls (spec : FunctionIngressSpec) : Bool := spec.tls.any (·.enabled)

/-- The certificates. -/
def tlsEntries (spec : FunctionIngressSpec) : List TlsEntry :=
  if spec.usesTls then [⟨spec.domain ++ "-cert", [spec.domain]⟩] else []

/-- The annotations by which the class finds the function at the gateway. -/
def gatewayAnnotations (spec : FunctionIngressSpec) : List (String × String) :=
  let target := "/function/" ++ spec.functionAddress
  if spec.bypassGateway then []
  else if spec.ingressClass = "nginx" then [(IngressKey.nginxTarget, target ++ "/$1")]
  else if spec.ingressClass = "skipper" then
    [(IngressKey.skipperFilter, "setPath(\"" ++ target ++ "\")")]
  else if spec.ingressClass = "traefik" then
    [(IngressKey.traefikTarget, target), (IngressKey.traefikRuleType, "PathPrefix")]
  else []

/-- The annotation that names the issuer of the certificate. -/
def issuerAnnotations (spec : FunctionIngressSpec) : List (String × String) :=
  match spec.tls with
  | some tls =>
    if tls.enabled then
      [(if tls.issuerRef.isClusterScoped then IngressKey.clusterIssuer
        else IngressKey.issuer, tls.issuerRef.name)]
    else []
  | none => []

end FunctionIngressSpec

/-- The annotations of the ingress. Later ones win: the snapshot, the class, the path at the
gateway, the issuer, and then every annotation of the function ingress itself. -/
def ingressAnnotations (object : FunctionIngress) : TextMap :=
  let user := object.metadata.userAnnotations
  let snapshot := (Snapshot.capture object).encode FunctionIngress.kind
  let ingressClass :=
    if user.contains IngressKey.ingressClass then []
    else [(IngressKey.ingressClass, object.spec.ingressClass)]
  (SortedMap.ofList ((FunctionIngress.kind.snapshotKey, snapshot) :: ingressClass ++
    object.spec.gatewayAnnotations ++ object.spec.issuerAnnotations)).overlay user

/-- What the operator wants of the ingress of a function ingress. -/
def desiredIngress (object : FunctionIngress) : DesiredIngress where
  name := object.metadata.displayName
  space := object.metadata.space.getD ""
  annotations := ingressAnnotations object
  owners := (FunctionIngress.kind.ownerReference? object.metadata).toList
  rules := object.spec.routingRules
  tls := object.spec.tlsEntries

end FunctionOperator
