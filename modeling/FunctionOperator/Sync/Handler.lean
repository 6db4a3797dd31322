import FunctionOperator.Cache.Store
import FunctionOperator.Sync.Event

/-!
# The sync handlers

What the operator does for one key. Read `FunctionIngressCaches.converge` and
`FunctionCaches.converge` first: a derived object that is missing is created, one that was
rendered from the same declared state is left alone, and any other one is replaced only if it was
made for this object and is controlled by it.
-/

namespace FunctionOperator

/-- Why a derived object may not be replaced on behalf of a primary one. -/
def replaceRefusal? {σ : Type} (kind : PrimaryKind σ) (recorded : Snapshot σ)
    (existing primary : Metadata) : Option SyncFailure :=
  let name := primary.displayName
  match recorded.recordedName?.filter (· != name) with
  | some previous => some (.rename previous name)
  | none =>
    if existing.isControlledBy kind.kind primary then none
    else some (.resourceExists (primary.space.getD "" ++ "/" ++ name) kind.kind name)

/-- Brings the derived object that records the declared state up to date, and goes on with the
outcome. -/
def convergeRecorded {σ : Type} [DecidableEq σ] (kind : PrimaryKind σ) (primary : Primary σ)
    (existing : Option Metadata) (create replace : Write) (rest : SyncOutcome → Sync) : Sync :=
  match existing with
  | none => .attempt create (rest .created)
  | some metadata =>
    match Snapshot.recover kind metadata.annotations with
    | .error failure => .finished (.error failure)
    | .ok recorded =>
      if recorded.agrees (Snapshot.capture primary) then rest .unchanged
      else
        match replaceRefusal? kind recorded metadata primary.metadata with
        | some failure => .finished (.error failure)
        | none => .attempt replace (rest .updated)

/-- The object that a key names and the sync it calls for; a key that names nothing known calls
for none. -/
def syncKey {σ : Type} (primaries : Store (Primary σ)) (converge : Primary σ → Sync)
    (key : String) : Except SyncFailure (Option (Primary σ × Sync)) := do
  let (space, name) ← Key.split key
  return (primaries.get? space name).map fun primary => (primary, converge primary)

/-! ## Function ingresses -/

/-- What the sync of a function ingress reads. -/
structure FunctionIngressCaches where
  /-- The function ingresses. -/
  primaries : Store FunctionIngress
  /-- The ingresses. -/
  ingresses : Store Ingress
  /-- The API for ingresses. -/
  api : IngressApi

namespace FunctionIngressCaches

/-- Brings the ingress of a function ingress up to date. -/
def converge (caches : FunctionIngressCaches) (primary : FunctionIngress) : Sync :=
  let space := primary.metadata.space.getD ""
  let existing := caches.ingresses.get? space primary.metadata.displayName
  let desired := desiredIngress primary
  convergeRecorded FunctionIngress.kind primary (existing.map Ingress.metadata)
    (.createIngress space (Ingress.build caches.api desired))
    (.replaceIngress space (match existing with
      | some ingress => Ingress.converge caches.api ingress desired
      | none => Ingress.build caches.api desired))
    fun outcome => .finished (.ok outcome)

end FunctionIngressCaches

/-! ## Functions -/

/-- What the sync of a function reads. -/
structure FunctionCaches where
  /-- The functions. -/
  primaries : Store Function
  /-- The deployments. -/
  deployments : Store Deployment
  /-- The services. -/
  services : Store Service
  /-- How functions are turned into deployments. -/
  settings : WorkloadSettings

namespace FunctionCaches

/-- Creates the service of a function if there is none; an existing one is never replaced. -/
def convergeService (caches : FunctionCaches) (primary : Function) (outcome : SyncOutcome) : Sync :=
  let space := primary.metadata.space.getD ""
  match caches.services.get? space primary.metadata.displayName with
  | some _ => .finished (.ok outcome)
  | none =>
    .attempt (.createService space (Service.make caches.settings primary))
      (.finished (.ok (if outcome = .unchanged then .created else outcome)))

/-- Brings the deployment and the service of a function up to date. -/
def converge (caches : FunctionCaches) (primary : Function) : Sync :=
  let space := primary.metadata.space.getD ""
  let existing := caches.deployments.get? space primary.metadata.displayName
  convergeRecorded Function.kind primary (existing.map Derived.metadata)
    (.createDeployment space (Deployment.make caches.settings primary))
    (.replaceDeployment space (match existing with
      | some deployment => Deployment.converge caches.settings deployment primary
      | none => Deployment.make caches.settings primary))
    (caches.convergeService primary)

end FunctionCaches

/-! ## Running a handler -/

/-- Runs the sync of a key against an API and tells about it: one event if the key names a known
object, none otherwise. -/
def runSync {σ γ : Type} (kind : PrimaryKind σ) (primaries : Store (Primary σ))
    (converge : Primary σ → Sync) (perform : Write → γ → Except ApiFailure Unit × γ)
    (key : String) (state : γ) : SyncResult × Option SyncEvent × γ :=
  match syncKey primaries converge key with
  | .error failure => (.error failure, none, state)
  | .ok none => (.ok .missing, none, state)
  | .ok (some (primary, sync)) =>
    let (result, state) := sync.run perform state
    (result, some (kind.event primary.metadata result), state)

end FunctionOperator
