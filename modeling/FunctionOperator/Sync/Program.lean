import FunctionOperator.Failure
import FunctionOperator.Resource.Ingress
import FunctionOperator.Resource.Workload

/-!
# Syncs as programs

A sync reads the caches and asks for writes, one after the other; each answer decides how it goes
on. `Sync` is the tree of its possible courses, so that statements about every behaviour of the
API are statements about a tree. `Sync.run` lets an API answer.
-/

namespace FunctionOperator

/-- What a successful sync did. -/
inductive SyncOutcome where
  /-- At least one derived object was created. -/
  | created
  /-- A derived object was replaced. -/
  | updated
  /-- The derived objects are as they should be. -/
  | unchanged
  /-- The primary object is gone. -/
  | missing
deriving DecidableEq

/-- The name of an outcome. -/
def SyncOutcome.name : SyncOutcome → String
  | .created => "Created"
  | .updated => "Updated"
  | .unchanged => "Unchanged"
  | .missing => "Missing"

/-- The end of a sync. -/
abbrev SyncResult := Except SyncFailure SyncOutcome

/-- A write that a sync asks for, with the namespace it is sent to. -/
inductive Write where
  /-- A new ingress. -/
  | createIngress (space : String) (object : Ingress)
  /-- An ingress in the place of the stored one. -/
  | replaceIngress (space : String) (object : Ingress)
  /-- A new deployment. -/
  | createDeployment (space : String) (object : Deployment)
  /-- A deployment in the place of the stored one. -/
  | replaceDeployment (space : String) (object : Deployment)
  /-- A new service. -/
  | createService (space : String) (object : Service)

namespace Write

/-- The namespace that a write is sent to. -/
def space : Write → String
  | .createIngress space _ => space
  | .replaceIngress space _ => space
  | .createDeployment space _ => space
  | .replaceDeployment space _ => space
  | .createService space _ => space

/-- The written object. -/
def document : Write → Json
  | .createIngress _ object => Ingress.codec.write object
  | .replaceIngress _ object => Ingress.codec.write object
  | .createDeployment _ object => Deployment.kind.codec.write object
  | .replaceDeployment _ object => Deployment.kind.codec.write object
  | .createService _ object => Service.kind.codec.write object

end Write

/-- The courses of a sync. -/
inductive Sync where
  /-- The sync is over. -/
  | finished (result : SyncResult)
  /-- The sync asks for a write and goes on with the answer. -/
  | writing (write : Write) (resume : Except ApiFailure Unit → Sync)

namespace Sync

/-- Asks for a write; if it fails the sync is over. -/
def attempt (write : Write) (rest : Sync) : Sync :=
  .writing write fun
    | .ok () => rest
    | .error failure => .finished (.error (.api failure))

/-- Runs a sync against an API that has a state. -/
def run {σ : Type} (perform : Write → σ → Except ApiFailure Unit × σ) : Sync → σ → SyncResult × σ
  | .finished result, state => (result, state)
  | .writing write resume, state =>
    let (answer, state) := perform write state
    run perform (resume answer) state

end Sync

end FunctionOperator
