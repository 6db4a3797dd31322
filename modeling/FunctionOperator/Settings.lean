import FunctionOperator.Duration
import FunctionOperator.Failure
import FunctionOperator.Resource.IngressApi
import FunctionOperator.Text.Numeral
import FunctionOperator.Text.Quoted

/-!
# Settings

What the operator takes from its environment. Read `Settings.load` first. Three settings can be
refused; every other one that cannot be read leaves its default, with a warning if it is a number.
-/

namespace FunctionOperator

/-- The timing of a container's probe in seconds. -/
structure ProbeTiming where
  /-- Before the first probe. -/
  initialDelay : Int := 2
  /-- For one probe. -/
  timeout : Int := 1
  /-- Between two probes. -/
  period : Int := 2
deriving DecidableEq

/-- How functions are turned into deployments. -/
structure WorkloadSettings where
  /-- The port of a function's server. -/
  httpPort : Int := 8080
  /-- Whether probes are requests instead of commands. -/
  httpProbe : Bool := true
  /-- When a container may receive requests. -/
  readiness : ProbeTiming := {}
  /-- When a container has to be started anew. -/
  liveness : ProbeTiming := {}
  /-- When an image is fetched. -/
  imagePullPolicy : String := "Always"
  /-- Whether containers run as an unprivileged user. -/
  nonRootUser : Bool := false
deriving DecidableEq

/-- The settings of the operator. -/
structure Settings where
  /-- The only namespace that is watched; none for all. -/
  watchNamespace : Option String
  /-- The number of workers of each control loop. -/
  workers : Nat
  /-- The API for ingresses, if it is not to be discovered. -/
  ingressApi : Option IngressApi
  /-- The admin server's port. -/
  port : Nat
  /-- The seconds for reading a request. -/
  readTimeout : Nat
  /-- The seconds for writing an answer. -/
  writeTimeout : Nat
  /-- How functions are turned into deployments. -/
  workload : WorkloadSettings
deriving DecidableEq

namespace Settings

/-- The variables of an environment. -/
abbrev Variables := String → Option String

/-- The namespace of functions when no namespace is watched. -/
def defaultFunctionNamespace : String := "openfaas-fn"

/-- The policies for fetching images. -/
def pullPolicies : List String := ["Always", "IfNotPresent", "Never"]

/-- Reading settings, which can fail, and logs warnings on the way. -/
abbrev Reading := ExceptT OperatorFailure (StateM (List String))

/-- What is logged of a variable that should hold a number and does not. -/
def warning (name raw : String) : String :=
  "Ignoring invalid value for " ++ name ++ ": " ++ Text.quoted raw

/-- A number from a variable. One that cannot be read leaves the default, with a warning. -/
def number {α : Type} (environment : Variables) (name : String) (read : String → Option α)
    (fallback : α) : Reading α := do
  match environment name with
  | none => return fallback
  | some raw =>
    match read (Text.trim raw) with
    | some value => return value
    | none =>
      modify (· ++ [warning name raw])
      return fallback

/-- A truth value from a variable; other texts leave the default. -/
def flag (environment : Variables) (name : String) (fallback : Bool) : Bool :=
  match (environment name).map Text.trim with
  | some "true" => true
  | some "1" => true
  | some "false" => false
  | some "0" => false
  | _ => fallback

/-- The variables of a probe's timing. -/
def probeNames (probe : String) : List String :=
  [probe ++ "_probe_initial_delay_seconds", probe ++ "_probe_timeout_seconds",
    probe ++ "_probe_period_seconds"]

/-- The variables that are looked at. -/
def names : List String :=
  ["WATCH_NAMESPACE", "function_namespace", "WORKERS", "INGRESS_API_VERSION", "port",
    "read_timeout", "write_timeout", "image_pull_policy", "http_probe", "set_nonroot_user"] ++
    probeNames "readiness" ++ probeNames "liveness"

/-- The timing of a probe. -/
def timing (environment : Variables) (probe : String) : Reading ProbeTiming := do
  let defaults : ProbeTiming := {}
  let initialDelay ← number environment (probe ++ "_probe_initial_delay_seconds")
    Text.readInt32? defaults.initialDelay
  let timeout ← number environment (probe ++ "_probe_timeout_seconds")
    Text.readInt32? defaults.timeout
  let period ← number environment (probe ++ "_probe_period_seconds")
    Text.readInt32? defaults.period
  return { initialDelay, timeout, period }

/-- The namespace to watch, unless it is blank. The fallback counts only where the first variable
is not set at all. -/
def watched (environment : Variables) : Option String :=
  ((environment "WATCH_NAMESPACE").or (environment "function_namespace")).filter fun space =>
    !(Text.trim space).isEmpty

/-- The number of workers. -/
def workerCount (environment : Variables) : Reading Nat := do
  let workers ← number environment "WORKERS" Text.readUInt64? 2
  if workers = 0 then throw (.invalidConfig "WORKERS must be at least 1")
  else return workers

/-- The forced API for ingresses. -/
def forcedApi (environment : Variables) : Except OperatorFailure (Option IngressApi) :=
  match (environment "INGRESS_API_VERSION").filter (!·.isEmpty) with
  | none => .ok none
  | some version =>
    match IngressApi.ofApiVersion? version with
    | some api => .ok (some api)
    | none => .error (.invalidConfig ("Unsupported INGRESS_API_VERSION: " ++ version))

/-- The policy for fetching images. -/
def pullPolicy (environment : Variables) : Except OperatorFailure String :=
  let policy := (environment "image_pull_policy").getD "Always"
  if pullPolicies.contains policy then .ok policy
  else .error (.invalidConfig ("Invalid image_pull_policy configured: " ++ policy))

/-- Reads the settings that an environment describes, up to the first one that is not admitted. -/
def load (environment : Variables) : Reading Settings := do
  let workers ← workerCount environment
  let ingressApi ← ofExcept (forcedApi environment)
  let port ← number environment "port" Text.readUInt16? 8081
  let readTimeout ← number environment "read_timeout" Text.readUInt64? 8
  let writeTimeout ← number environment "write_timeout" Text.readUInt64? 8
  let imagePullPolicy ← ofExcept (pullPolicy environment)
  let readiness ← timing environment "readiness"
  let liveness ← timing environment "liveness"
  return {
    watchNamespace := watched environment
    workers := workers
    ingressApi := ingressApi
    port := port
    readTimeout := readTimeout
    writeTimeout := writeTimeout
    workload := {
      httpProbe := flag environment "http_probe" true
      readiness := readiness
      liveness := liveness
      imagePullPolicy := imagePullPolicy
      nonRootUser := flag environment "set_nonroot_user" false } }

/-- The settings that an environment describes, or the first one that is not admitted. -/
def ofVariables (environment : Variables) : Except OperatorFailure Settings :=
  ((load environment).run.run []).1

/-- What is logged while the settings are read, oldest first. -/
def warnings (environment : Variables) : List String :=
  ((load environment).run.run []).2

/-- The number of variables that should hold a number and do not. -/
def warningCount (environment : Variables) : Nat :=
  (warnings environment).length

/-- The namespace in which the admin API reads and writes functions. -/
def functionNamespace (settings : Settings) : String :=
  settings.watchNamespace.getD defaultFunctionNamespace

/-- The seconds that one request may take. -/
def requestTimeout (settings : Settings) : Nat :=
  max settings.readTimeout settings.writeTimeout

end Settings

end FunctionOperator
