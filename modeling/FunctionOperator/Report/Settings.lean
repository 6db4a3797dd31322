import FunctionOperator.Settings

/-!
# Reports of settings

The document that shows what the operator has taken from its environment.
-/

namespace FunctionOperator

/-- The report of the timing of a probe. -/
def ProbeTiming.report (timing : ProbeTiming) : Json :=
  .array [.ofInt timing.initialDelay, .ofInt timing.timeout, .ofInt timing.period]

/-- The report of settings, and of the number of values that were ignored. -/
def Settings.report (settings : Settings) (warnings : Nat) : Json :=
  let orNull (text : Option String) : Json := .ofOption (text.map .string)
  .object [
    ("watch_namespace", orNull settings.watchNamespace),
    ("function_namespace", .string settings.functionNamespace),
    ("workers", .ofNat settings.workers),
    ("ingress_schema", orNull (settings.ingressApi.map IngressApi.apiVersion)),
    ("port", .ofNat settings.port),
    ("read_timeout", .ofNat settings.readTimeout),
    ("write_timeout", .ofNat settings.writeTimeout),
    ("request_timeout", .ofNat settings.requestTimeout),
    ("runtime_http_port", .ofInt settings.workload.httpPort),
    ("http_probe", .bool settings.workload.httpProbe),
    ("readiness_probe", settings.workload.readiness.report),
    ("liveness_probe", settings.workload.liveness.report),
    ("image_pull_policy", .string settings.workload.imagePullPolicy),
    ("set_non_root_user", .bool settings.workload.nonRootUser),
    ("warnings", .ofNat warnings)]

end FunctionOperator
