import FunctionOperator.Loop.FunctionIngress
import FunctionOperator.Proofs.WorkQueue.SingleFlight

/-!
# A cluster with its operator

The API server, the two watches and the workers of the control loop for function ingresses, and
everything that may happen to them, in any order. Read `Cluster.act?` first. Users declare and
withdraw function ingresses at any time; each watch delivers its events in order and as late as it
likes; and a sync is cut where others may come between: taking the key, looking at the function
ingress, reading the cached ingress, each answer of the API server, and the end. Nothing but these
syncs writes ingresses.
-/

namespace FunctionOperator

/-- How far the sync of a key has come. -/
inductive SyncPhase where
  /-- The key was taken. -/
  | taken
  /-- The function ingress was found in the cache. -/
  | found (primary : FunctionIngress)
  /-- The caches were read, when the API server had this ingress of the same name. -/
  | reading (seen : Option Ingress) (sync : Sync)

/-- What a worker is at. -/
structure SyncJob where
  /-- The key that it holds. -/
  key : String
  /-- How far it has come. -/
  phase : SyncPhase

/-- How the last sync of a key ended. -/
structure LastSync where
  /-- The result. -/
  result : SyncResult
  /-- The ingress that the API server had when the cached one was read. -/
  seen : Option Ingress

/-- The API server and the operator. -/
structure Cluster where
  /-- The function ingresses on the API server. -/
  primaries : Store FunctionIngress
  /-- The ingresses on the API server. -/
  ingresses : Store Ingress
  /-- The number of the last version that the API server gave to an ingress. -/
  version : Nat
  /-- The events about function ingresses that the operator has not learned of. -/
  primaryFeed : List (WatchEvent FunctionIngress)
  /-- The events about ingresses that the operator has not learned of. -/
  ingressFeed : List (WatchEvent Ingress)
  /-- The caches and the queue. -/
  loop : FunctionIngressLoop
  /-- What each worker is at, if anything. -/
  jobs : Nat → Option SyncJob
  /-- How the last sync of each key ended, if there was one. -/
  last : String → Option LastSync

/-- What may happen in a cluster. -/
inductive ClusterAction where
  /-- A function ingress is created or changed. -/
  | declare (object : FunctionIngress)
  /-- A function ingress is deleted. -/
  | withdraw (id : ObjectId)
  /-- The operator learns of the next event about a function ingress. -/
  | learnPrimary
  /-- The operator learns of the next event about an ingress. -/
  | learnIngress
  /-- A worker takes a key. -/
  | take (worker : Nat)
  /-- A worker looks for the function ingress of its key. -/
  | look (worker : Nat)
  /-- A worker reads the cached ingress and decides what to do. -/
  | read (worker : Nat)
  /-- The API server performs the write of a worker. -/
  | accept (worker : Nat)
  /-- The API server does not perform the write of a worker. -/
  | refuse (worker : Nat) (failure : ApiFailure)
  /-- The API server performs the write of a worker, which does not learn of it. -/
  | lose (worker : Nat) (failure : ApiFailure)
  /-- A worker ends its sync. -/
  | finish (worker : Nat)
  /-- Time passes, in nanoseconds. -/
  | elapse (nanos : Nat)
  /-- A delayed key whose time has come is added. -/
  | fire (entry : DelayedKey)

/-- Whether the API server takes a function ingress: it has a name and a namespace, and does not
itself carry the annotation in which ingresses record their state. -/
def admits (object : FunctionIngress) : Bool :=
  object.metadata.name.isSome && object.metadata.space.any (!·.isEmpty) &&
    !(object.metadata.annotations.getD ∅).contains FunctionIngress.kind.snapshotKey

namespace Cluster

/-- The queue of the operator. -/
def queue (cluster : Cluster) : WorkQueue := cluster.loop.pool.queue

/-- The function ingresses that the operator knows. -/
def knownPrimaries (cluster : Cluster) : Store FunctionIngress := cluster.loop.view.primaries.store

/-- The ingresses that the operator knows. -/
def knownIngresses (cluster : Cluster) : Store Ingress := cluster.loop.view.ingresses.store

/-- Changes the queue. -/
def mapQueue (cluster : Cluster) (change : WorkQueue → WorkQueue) : Cluster :=
  { cluster with loop := cluster.loop.mapQueue change }

/-- Sets what a worker is at. -/
def assign (cluster : Cluster) (worker : Nat) (job : Option SyncJob) : Cluster :=
  { cluster with jobs := fun other => if other = worker then job else cluster.jobs other }

/-- An ingress as the API server stores it next, in its namespace and as a new version. -/
def stamp (cluster : Cluster) (space : String) (object : Ingress) : Ingress :=
  { object with metadata := { object.metadata with
    space := some space, resourceVersion := some (toString (cluster.version + 1)) } }

/-- Stores an ingress on the API server. -/
def store (cluster : Cluster) (space name : String) (object : Ingress) : Cluster :=
  { cluster with
    ingresses := cluster.ingresses.insert ⟨some space, name⟩ (cluster.stamp space object)
    version := cluster.version + 1
    ingressFeed := cluster.ingressFeed ++ [.applied (cluster.stamp space object)] }

/-- Performs a write on the API server, which takes no new ingress of an existing name and no change
of another version than the stored one. -/
def perform? (cluster : Cluster) : Write → Option Cluster
  | .createIngress space object => do
    let name ← object.metadata.name
    if (cluster.ingresses.find? ⟨some space, name⟩).isSome then none
    else some (cluster.store space name object)
  | .replaceIngress space object => do
    let name ← object.metadata.name
    let stored ← cluster.ingresses.find? ⟨some space, name⟩
    if object.metadata.resourceVersion.all (stored.metadata.resourceVersion == some ·) then
      some (cluster.store space name object)
    else none
  | _ => none

/-- What a worker finds for its key. -/
def look (cluster : Cluster) (key : String) : SyncPhase :=
  match Key.split key with
  | .error failure => .reading none (.finished (.error failure))
  | .ok (space, name) =>
    match cluster.knownPrimaries.get? space name with
    | none => .reading none (.finished (.ok .missing))
    | some primary => .found primary

/-- What a worker decides to do for a function ingress. -/
def read (cluster : Cluster) (primary : FunctionIngress) : SyncPhase :=
  .reading (primary.metadata.objectId?.bind cluster.ingresses.find?)
    (cluster.loop.view.caches.converge primary)

/-- Lets an action happen. -/
def act? (cluster : Cluster) : ClusterAction → Option Cluster
  | .declare object =>
    if admits object then
      object.metadata.objectId?.map fun id => { cluster with
        primaries := cluster.primaries.insert id object
        primaryFeed := cluster.primaryFeed ++ [.applied object] }
    else none
  | .withdraw id =>
    (cluster.primaries.find? id).map fun object => { cluster with
      primaries := cluster.primaries.erase id
      primaryFeed := cluster.primaryFeed ++ [.deleted object] }
  | .learnPrimary =>
    match cluster.primaryFeed with
    | [] => none
    | event :: events => (cluster.loop.watchPrimary? event).map fun loop =>
      { cluster with loop := loop, primaryFeed := events }
  | .learnIngress =>
    match cluster.ingressFeed with
    | [] => none
    | event :: events => (cluster.loop.watchIngress? event).map fun loop =>
      { cluster with loop := loop, ingressFeed := events }
  | .take worker =>
    match cluster.jobs worker, cluster.queue.take? with
    | none, some (key, queue) =>
      some ((cluster.mapQueue fun _ => queue).assign worker (some ⟨key, .taken⟩))
    | _, _ => none
  | .look worker =>
    match cluster.jobs worker with
    | some ⟨key, .taken⟩ => some (cluster.assign worker (some ⟨key, cluster.look key⟩))
    | _ => none
  | .read worker =>
    match cluster.jobs worker with
    | some ⟨key, .found primary⟩ => some (cluster.assign worker (some ⟨key, cluster.read primary⟩))
    | _ => none
  | .accept worker =>
    match cluster.jobs worker with
    | some ⟨key, .reading seen (.writing write resume)⟩ => (cluster.perform? write).map fun next =>
      next.assign worker (some ⟨key, .reading seen (resume (.ok ()))⟩)
    | _ => none
  | .refuse worker failure =>
    match cluster.jobs worker with
    | some ⟨key, .reading seen (.writing _ resume)⟩ =>
      some (cluster.assign worker (some ⟨key, .reading seen (resume (.error failure))⟩))
    | _ => none
  | .lose worker failure =>
    match cluster.jobs worker with
    | some ⟨key, .reading seen (.writing write resume)⟩ => (cluster.perform? write).map fun next =>
      next.assign worker (some ⟨key, .reading seen (resume (.error failure))⟩)
    | _ => none
  | .finish worker =>
    match cluster.jobs worker with
    | some ⟨key, .reading seen (.finished result)⟩ =>
      some ({ cluster with
        loop := { cluster.loop with pool := cluster.loop.pool.finish key result }
        last := fun other => if other = key then some ⟨result, seen⟩ else cluster.last other }.assign
          worker none)
    | _ => none
  | .elapse nanos => some (cluster.mapQueue fun queue => { queue with now := queue.now + nanos })
  | .fire entry =>
    if entry ∈ cluster.queue.delayed ∧ entry.due ≤ cluster.queue.now then
      some (cluster.mapQueue (·.fire entry))
    else none

/-- A cluster whose operator has just listed what there is. -/
def listed (backoff : Backoff) (api : IngressApi) (primaries : Store FunctionIngress)
    (ingresses : Store Ingress) (version : Nat) : Cluster where
  primaries := primaries
  ingresses := ingresses
  version := version
  primaryFeed := []
  ingressFeed := []
  loop := {
    view := {
      primaries := ⟨primaries, .empty, [], true⟩
      ingresses := ⟨ingresses, .empty, [], true⟩
      ingressApi := api }
    pool := ⟨FunctionIngress.kind.kind,
      (WorkQueue.new backoff).addRoutes primaryRoute? (primaries.objects.map .added), {}⟩ }
  jobs _ := none
  last _ := none

/-- A worker that looks and reads without a break does what the handler decides for its key. -/
theorem look_eq_sync_key (cluster : Cluster) (key : String) :
    cluster.look key =
      match syncKey cluster.knownPrimaries cluster.loop.view.caches.converge key with
      | .error failure => .reading none (.finished (.error failure))
      | .ok none => .reading none (.finished (.ok .missing))
      | .ok (some (primary, _)) => .found primary := by
  unfold look syncKey
  cases Key.split key with
  | error failure => rfl
  | ok parts =>
    obtain ⟨space, name⟩ := parts
    simp only [bind, Except.bind, pure, Except.pure]
    cases cluster.knownPrimaries.get? space name with
    | none => rfl
    | some primary => rfl

end Cluster

end FunctionOperator
