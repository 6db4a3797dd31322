import FunctionOperator.Client.Discovery
import FunctionOperator.Client.EventLog
import FunctionOperator.Client.Watcher
import FunctionOperator.Client.Writes
import FunctionOperator.Loop.Function
import FunctionOperator.Loop.FunctionIngress
import FunctionOperator.Settings

/-!
# The operator

The whole operator: it takes its settings from the environment, finds out which API for ingresses
the cluster serves, and runs both control loops on what its watchers tell. Read `Operator.start?`
and `Operator.turn?` first. Nothing is synced before every cache has seen a complete list.
-/

namespace FunctionOperator

/-- What a sync changes outside of the operator: the events that were posted, and the server. -/
structure Outside (σ : Type) where
  /-- The posted events. -/
  log : EventLog
  /-- The state of the server. -/
  server : σ

namespace Outside

variable {σ : Type}

/-- Sends a write to the server. -/
def perform (transport : Transport σ) (api : IngressApi) (write : Write) (outside : Outside σ) :
    Except ApiFailure Unit × Outside σ :=
  let (answer, server) := (write.apiCall api).run transport outside.server
  (answer, { outside with server := server })

/-- Publishes an event, if there is one. -/
def tell (transport : Transport σ) (now : Timestamp) (event : Option SyncEvent)
    (outside : Outside σ) : Outside σ :=
  match event with
  | none => outside
  | some event =>
    let (_, log, server) := outside.log.publish transport event now outside.server
    ⟨log, server⟩

/-- Syncs a key against the server and tells about it. -/
def sync {τ : Type} (kind : PrimaryKind τ) (primaries : Store (Primary τ))
    (converge : Primary τ → Sync) (transport : Transport σ) (api : IngressApi) (now : Timestamp)
    (key : String) (outside : Outside σ) : SyncResult × Outside σ :=
  let (result, event, outside) :=
    runSync kind primaries converge (perform transport api) key outside
  (result, outside.tell transport now event)

end Outside

/-- The watchers of the caches. -/
structure Watchers where
  /-- That of the function ingresses. -/
  functionIngresses : Watcher := .listing none
  /-- That of the ingresses. -/
  ingresses : Watcher := .listing none
  /-- That of the functions. -/
  functions : Watcher := .listing none
  /-- That of the deployments. -/
  deployments : Watcher := .listing none
  /-- That of the services. -/
  services : Watcher := .listing none

/-- A started operator. -/
structure Operator where
  /-- The settings. -/
  settings : Settings
  /-- The API for ingresses. -/
  ingressApi : IngressApi
  /-- The watchers. -/
  watchers : Watchers := {}
  /-- The control loop for function ingresses. -/
  ingressLoop : FunctionIngressLoop
  /-- The control loop for functions. -/
  functionLoop : FunctionLoop
  /-- The posted events. -/
  log : EventLog := {}

namespace Operator

variable {σ : Type}

/-- The operator with given settings and a given API for ingresses. -/
def new (settings : Settings) (api : IngressApi) : Operator where
  settings := settings
  ingressApi := api
  ingressLoop := .new api false
  functionLoop := .new settings.workload false

/-- Starts the operator. What is wrong with the settings is told first, then that there is no way
to the cluster, and then that no API for ingresses is served. -/
def start? (environment : Settings.Variables) (configured : Bool) (transport : Transport σ)
    (server : σ) : Except OperatorFailure Operator × σ :=
  match Settings.ofVariables environment with
  | .error failure => (.error failure, server)
  | .ok settings =>
    if !configured then (.error (.api .unconfigured), server)
    else
      match settings.ingressApi with
      | some api => (.ok (new settings api), server)
      | none =>
        let (found, server) := IngressApi.discover transport server
        (found.map (new settings), server)

/-- Whether every cache that syncs read has seen a complete list. -/
def ready (operator : Operator) : Bool :=
  let ingressView := operator.ingressLoop.view
  let functionView := operator.functionLoop.view
  ingressView.primaries.ready && ingressView.ingresses.ready && functionView.primaries.ready &&
    functionView.deployments.ready && functionView.services.ready

/-- Lets a watcher ask the server, and a control loop take in what it hears. -/
def hear? {α γ : Type} [HasMetadata α] (collection : Collection α) (space : Option String)
    (transport : Transport σ) (take? : γ → WatchEvent α → Option γ) (watcher : Watcher) (loop : γ)
    (server : σ) : Option (Watcher × γ × σ) := do
  let ((events, watcher), server) := watcher.ask collection space transport server
  return (watcher, ← events.foldlM take? loop, server)

/-- Lets every watcher ask the server once. -/
def listen? (transport : Transport σ) (operator : Operator) (server : σ) :
    Option (Operator × σ) := do
  let space := operator.settings.watchNamespace
  let watchers := operator.watchers
  let (functionIngresses, ingressLoop, server) ← hear? FunctionIngress.kind.collection space
    transport FunctionIngressLoop.watchPrimary? watchers.functionIngresses operator.ingressLoop
    server
  let (ingresses, ingressLoop, server) ← hear? operator.ingressApi.collection space transport
    FunctionIngressLoop.watchIngress? watchers.ingresses ingressLoop server
  let (functions, functionLoop, server) ← hear? Function.kind.collection space transport
    FunctionLoop.watchPrimary? watchers.functions operator.functionLoop server
  let (deployments, functionLoop, server) ← hear? Deployment.kind.collection space transport
    FunctionLoop.watchDeployment? watchers.deployments functionLoop server
  let (services, functionLoop, server) ← hear? Service.kind.collection space transport
    FunctionLoop.watchService? watchers.services functionLoop server
  return ({ operator with
    watchers := ⟨functionIngresses, ingresses, functions, deployments, services⟩
    ingressLoop := ingressLoop
    functionLoop := functionLoop }, server)

/-- Lets the workers of a control loop sync the keys that wait. -/
def drain {γ : Type} (sync : String → Outside σ → SyncResult × Outside σ) (loop : ControlLoop γ)
    (outside : Outside σ) : ControlLoop γ × Outside σ :=
  let (pool, outside) := loop.pool.drain sync outside loop.pool.queue.waiting.length
  ({ loop with pool := pool }, outside)

/-- Lets the workers of both control loops sync the keys that wait. -/
def work (transport : Transport σ) (now : Timestamp) (operator : Operator) (server : σ) :
    Operator × σ :=
  let outside : Outside σ := ⟨operator.log, server⟩
  let ingressView := operator.ingressLoop.view
  let (ingressLoop, outside) := drain (Outside.sync FunctionIngress.kind
    ingressView.primaries.store ingressView.caches.converge transport operator.ingressApi now)
    operator.ingressLoop outside
  let functionView := operator.functionLoop.view
  let (functionLoop, outside) := drain (Outside.sync Function.kind functionView.primaries.store
    functionView.caches.converge transport operator.ingressApi now)
    operator.functionLoop outside
  ({ operator with
    ingressLoop := ingressLoop
    functionLoop := functionLoop
    log := outside.log }, outside.server)

/-- Lets time pass for both queues, in nanoseconds. -/
def advance (operator : Operator) (nanos : Nat) : Operator :=
  { operator with
    ingressLoop := operator.ingressLoop.mapQueue (·.advance nanos)
    functionLoop := operator.functionLoop.mapQueue (·.advance nanos) }

/-- One turn of the operator: every watcher asks once, and if all caches are complete the workers
sync the keys that wait. Nothing comes of an object without a name. -/
def turn? (transport : Transport σ) (now : Timestamp) (operator : Operator) (server : σ) :
    Option (Operator × σ) := do
  let (operator, server) ← operator.listen? transport server
  return if operator.ready then operator.work transport now server else (operator, server)

end Operator

/-- The transport of a server that cannot be reached; no request ever arrives. -/
def Transport.unreachable {σ : Type} : Transport σ := fun _ server =>
  (.error (.unavailable "connection refused"), server)

end FunctionOperator
