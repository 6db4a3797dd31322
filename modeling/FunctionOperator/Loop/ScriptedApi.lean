import FunctionOperator.Sync.Handler
import FunctionOperator.Text.Numeral

/-!
# An API that answers as told

The writes and events of a control loop, kept in their order, and the calls that are to fail. Read
`ScriptedApi.answer` first: a call fails if a failure is set for it and succeeds otherwise.
-/

namespace FunctionOperator

/-- The calls by which a sync writes. -/
inductive WriteCall where
  /-- Create an ingress. -/
  | createIngress
  /-- Replace an ingress. -/
  | replaceIngress
  /-- Create a deployment. -/
  | createDeployment
  /-- Replace a deployment. -/
  | replaceDeployment
  /-- Create a service. -/
  | createService
deriving DecidableEq

/-- The call of a write. -/
def Write.call : Write → WriteCall
  | .createIngress .. => .createIngress
  | .replaceIngress .. => .replaceIngress
  | .createDeployment .. => .createDeployment
  | .replaceDeployment .. => .replaceDeployment
  | .createService .. => .createService

/-- The calls that fail, and what has happened. -/
structure ScriptedApi where
  /-- The calls that fail, and how. -/
  failures : List (WriteCall × ApiFailure) := []
  /-- The writes that were asked for, in order, each with its failure if it failed. -/
  attempts : List (Write × Option ApiFailure) := []
  /-- The events that were told, in order. -/
  events : List SyncEvent := []

namespace ScriptedApi

/-- Answers a write. -/
def answer (write : Write) (api : ScriptedApi) : Except ApiFailure Unit × ScriptedApi :=
  let failure := api.failures.lookup write.call
  let api := { api with attempts := api.attempts ++ [(write, failure)] }
  match failure with
  | some failure => (.error failure, api)
  | none => (.ok (), api)

/-- Keeps an event, if there is one. -/
def tell (api : ScriptedApi) (event : Option SyncEvent) : ScriptedApi :=
  { api with events := api.events ++ event.toList }

/-- The same API with an empty record. -/
def forgetPast (api : ScriptedApi) : ScriptedApi := { api with attempts := [], events := [] }

end ScriptedApi

/-- The metadata of the version that follows a written one. -/
def Metadata.nextVersion (metadata : Metadata) : Metadata :=
  let written := (metadata.resourceVersion.bind Text.readUInt64?).getD 0
  { metadata with resourceVersion := some (toString (written + 1)) }

end FunctionOperator
