import FunctionOperator.Rendering.Ingress
import FunctionOperator.Resource.IngressApi

/-!
# Reports of ingresses

The documents that show what is decided about an ingress before it is written in the form of an API.
-/

namespace FunctionOperator

/-- The report of a route. -/
def RoutingRule.report (rule : RoutingRule) : Json :=
  .object [("host", .string rule.host), ("path", .string rule.path),
    ("service", .string rule.service), ("port", .ofInt rule.port)]

/-- The report of a certificate. -/
def TlsEntry.report (entry : TlsEntry) : Json :=
  .object [("secretName", .string entry.secretName),
    ("hosts", .array (entry.hosts.map .string))]

/-- The report of the routes and certificates that a spec calls for. -/
def FunctionIngressSpec.report (spec : FunctionIngressSpec) : Json :=
  .object [
    ("class", .string spec.ingressClass),
    ("path", .string spec.resolvedPath),
    ("address", .string spec.functionAddress),
    ("rules", .array (spec.routingRules.map RoutingRule.report)),
    ("tls", .array (spec.tlsEntries.map TlsEntry.report)),
    ("use_tls", .bool spec.usesTls)]

/-- The report of what the operator controls of an ingress. -/
def DesiredIngress.report (desired : DesiredIngress) : Json :=
  .object [
    ("name", .string desired.name),
    ("namespace", .string desired.space),
    ("annotations", Codec.textMap.write desired.annotations),
    ("owner_references", .array (desired.owners.map OwnerReference.codec.write)),
    ("rules", .array (desired.rules.map RoutingRule.report)),
    ("tls", .array (desired.tls.map TlsEntry.report))]

/-- The report of an API for ingresses. -/
def IngressApi.report (api : IngressApi) : Json :=
  .object [
    ("group", .string api.group),
    ("version", .string api.version),
    ("api_version", .string api.apiVersion),
    ("kind", .string kind),
    ("plural", .string plural),
    ("display", .string api.apiVersion)]

end FunctionOperator
