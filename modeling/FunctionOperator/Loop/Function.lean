import FunctionOperator.Loop.ControlLoop

/-!
# The control loop for functions

Notifications about functions, deployments and services feed the queue; a worker brings the
deployment and the service of a key up to date. Read `FunctionView.sync` first.
-/

namespace FunctionOperator

/-- What the control loop for functions sees. -/
structure FunctionView where
  /-- The functions. -/
  primaries : Informer Function := .new
  /-- The deployments. -/
  deployments : Informer Deployment := .new
  /-- The services. -/
  services : Informer Service := .new
  /-- How functions are turned into deployments. -/
  settings : WorkloadSettings
  /-- The API that takes writes and events. -/
  api : ScriptedApi := {}
  /-- Whether the caches learn of a successful write at once. -/
  echo : Bool := false

namespace FunctionView

/-- What a sync reads. -/
def caches (view : FunctionView) : FunctionCaches :=
  ⟨view.primaries.store, view.deployments.store, view.services.store, view.settings⟩

/-- The cache that has learned of a written object, as the version that follows it. -/
def learned {α : Type} (informer : Informer (Derived α)) (object : Derived α) :
    Informer (Derived α) :=
  let next := { object with metadata := object.metadata.nextVersion }
  ((informer.process? (.applied next)).map (·.2)).getD informer

/-- Learns of a written object. -/
def learn (view : FunctionView) : Write → FunctionView
  | .createDeployment _ object | .replaceDeployment _ object =>
    { view with deployments := learned view.deployments object }
  | .createService _ object => { view with services := learned view.services object }
  | _ => view

/-- Sends a write. -/
def perform (write : Write) (view : FunctionView) : Except ApiFailure Unit × FunctionView :=
  let (answer, api) := view.api.answer write
  let view := { view with api := api }
  match answer with
  | .ok () => (answer, if view.echo then view.learn write else view)
  | .error _ => (answer, view)

/-- Syncs a key and tells about it. -/
def sync (key : String) (view : FunctionView) : SyncResult × FunctionView :=
  let (result, event, view) := runSync Function.kind view.primaries.store
    view.caches.converge perform key view
  (result, { view with api := view.api.tell event })

end FunctionView

/-- The control loop for functions. -/
abbrev FunctionLoop := ControlLoop FunctionView

namespace FunctionLoop

/-- The loop before anything is known. -/
def new (settings : WorkloadSettings) (echo : Bool) : FunctionLoop where
  view := { settings := settings, echo := echo }
  pool := ⟨Function.kind.kind, .new .standard, {}⟩

/-- Takes in an event about a function. -/
def watchPrimary? (loop : FunctionLoop) (event : WatchEvent Function) : Option FunctionLoop := do
  let (told, primaries) ← loop.view.primaries.process? event
  return { loop with view := { loop.view with primaries := primaries } }.route primaryRoute? told

/-- The key that a notification about a derived object calls for. -/
def routeDerived? {α : Type} (loop : FunctionLoop) :
    Notification (Derived α) → Option String :=
  ownerRoute? Function.kind loop.view.primaries.store

/-- Takes in an event about a deployment. -/
def watchDeployment? (loop : FunctionLoop) (event : WatchEvent Deployment) :
    Option FunctionLoop := do
  let (told, deployments) ← loop.view.deployments.process? event
  return { loop with view := { loop.view with deployments := deployments } }.route
    (routeDerived? loop) told

/-- Takes in an event about a service. -/
def watchService? (loop : FunctionLoop) (event : WatchEvent Service) : Option FunctionLoop := do
  let (told, services) ← loop.view.services.process? event
  return { loop with view := { loop.view with services := services } }.route
    (routeDerived? loop) told

end FunctionLoop

end FunctionOperator
