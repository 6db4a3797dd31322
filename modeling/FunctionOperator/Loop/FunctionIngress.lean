import FunctionOperator.Loop.ControlLoop

/-!
# The control loop for function ingresses

Notifications about function ingresses and ingresses feed the queue; a worker brings the ingress of
a key up to date. Read `FunctionIngressView.sync` first.
-/

namespace FunctionOperator

/-- What the control loop for function ingresses sees. -/
structure FunctionIngressView where
  /-- The function ingresses. -/
  primaries : Informer FunctionIngress := .new
  /-- The ingresses. -/
  ingresses : Informer Ingress := .new
  /-- The API for ingresses. -/
  ingressApi : IngressApi
  /-- The API that takes writes and events. -/
  api : ScriptedApi := {}
  /-- Whether the caches learn of a successful write at once. -/
  echo : Bool := false

namespace FunctionIngressView

/-- What a sync reads. -/
def caches (view : FunctionIngressView) : FunctionIngressCaches :=
  ⟨view.primaries.store, view.ingresses.store, view.ingressApi⟩

/-- Learns of a written object, as the version that follows it. -/
def learn (view : FunctionIngressView) : Write → FunctionIngressView
  | .createIngress _ object | .replaceIngress _ object =>
    let next := { object with metadata := object.metadata.nextVersion }
    match view.ingresses.process? (.applied next) with
    | some (_, ingresses) => { view with ingresses := ingresses }
    | none => view
  | _ => view

/-- Sends a write. -/
def perform (write : Write) (view : FunctionIngressView) :
    Except ApiFailure Unit × FunctionIngressView :=
  let (answer, api) := view.api.answer write
  let view := { view with api := api }
  match answer with
  | .ok () => (answer, if view.echo then view.learn write else view)
  | .error _ => (answer, view)

/-- Syncs a key and tells about it. -/
def sync (key : String) (view : FunctionIngressView) : SyncResult × FunctionIngressView :=
  let (result, event, view) := runSync FunctionIngress.kind view.primaries.store
    view.caches.converge perform key view
  (result, { view with api := view.api.tell event })

end FunctionIngressView

/-- The control loop for function ingresses. -/
abbrev FunctionIngressLoop := ControlLoop FunctionIngressView

namespace FunctionIngressLoop

/-- The loop before anything is known. -/
def new (ingressApi : IngressApi) (echo : Bool) : FunctionIngressLoop where
  view := { ingressApi := ingressApi, echo := echo }
  pool := ⟨FunctionIngress.kind.kind, .new .standard, {}⟩

/-- Takes in an event about a function ingress. -/
def watchPrimary? (loop : FunctionIngressLoop) (event : WatchEvent FunctionIngress) :
    Option FunctionIngressLoop := do
  let (told, primaries) ← loop.view.primaries.process? event
  return { loop with view := { loop.view with primaries := primaries } }.route primaryRoute? told

/-- Takes in an event about an ingress. -/
def watchIngress? (loop : FunctionIngressLoop) (event : WatchEvent Ingress) :
    Option FunctionIngressLoop := do
  let (told, ingresses) ← loop.view.ingresses.process? event
  return { loop with view := { loop.view with ingresses := ingresses } }.route
    (ownerRoute? FunctionIngress.kind loop.view.primaries.store) told

end FunctionIngressLoop

end FunctionOperator
