import FunctionOperator.Loop.Function
import FunctionOperator.Loop.FunctionIngress

/-!
# Rehearsals of control loops

What may happen to a control loop from outside, one command after the other, and what it answers.
Read `Wiring.step?` first. Every answer comes with the writes and the events since the last one.
-/

namespace FunctionOperator

/-- What may happen to a control loop; `ε` are the events of its caches. -/
inductive LoopCommand (ε : Type) where
  /-- A cache learns of an event. -/
  | watch (event : ε)
  /-- A key is synced. -/
  | sync (key : String)
  /-- A key is added to the queue. -/
  | add (key : String)
  /-- A worker asks for a key. -/
  | work
  /-- From now on, other calls fail. -/
  | fail (failures : List (WriteCall × ApiFailure))
  /-- Time passes, in nanoseconds. -/
  | advance (nanos : Nat)
  /-- The failures of a key are asked for. -/
  | requeues (key : String)
  /-- A worker runs for a time, in nanoseconds, and is stopped. -/
  | run (nanos : Nat)
  /-- The counters are asked for. -/
  | metrics

/-- What a control loop answers. -/
inductive LoopAnswer where
  /-- Nothing. -/
  | silent
  /-- The result of a sync. -/
  | synced (result : SyncResult)
  /-- What became of a worker. -/
  | worked (step : WorkerPool.WorkStep)
  /-- A number. -/
  | count (number : Nat)
  /-- The counters. -/
  | counters (metrics : Metrics)

/-- How a control loop is wired. -/
structure Wiring (γ ε : Type) where
  /-- The sync of a key. -/
  sync : String → γ → SyncResult × γ
  /-- The reaction to an event of a cache, which has to be about an object with a name. -/
  watch? : ControlLoop γ → ε → Option (ControlLoop γ)
  /-- The API that takes writes and events. -/
  api : γ → ScriptedApi
  /-- Puts another API in its place. -/
  withApi : γ → ScriptedApi → γ

namespace Wiring

variable {γ ε : Type} (wiring : Wiring γ ε)

/-- Lets a command happen. -/
def act? (loop : ControlLoop γ) : LoopCommand ε → Option (LoopAnswer × ControlLoop γ)
  | .watch event => (wiring.watch? loop event).map (.silent, ·)
  | .sync key =>
    let (result, view) := wiring.sync key loop.view
    some (.synced result, { loop with view := view })
  | .add key => some (.silent, loop.mapQueue (·.add key))
  | .work =>
    let (step, loop) := loop.work wiring.sync
    some (.worked step, loop)
  | .fail failures =>
    let api := { wiring.api loop.view with failures := failures }
    some (.silent, { loop with view := wiring.withApi loop.view api })
  | .advance nanos => some (.silent, loop.mapQueue (·.advance nanos))
  | .requeues key => some (.count (loop.pool.queue.requeues key), loop)
  | .run nanos => some (.silent, loop.runFor wiring.sync nanos)
  | .metrics => some (.counters loop.pool.metrics, loop)

/-- Lets a command happen, and tells what the API has seen of it. -/
def step? (loop : ControlLoop γ) (command : LoopCommand ε) :
    Option (LoopAnswer × ScriptedApi × ControlLoop γ) := do
  let (answer, loop) ← wiring.act? loop command
  let api := wiring.api loop.view
  return (answer, api, { loop with view := wiring.withApi loop.view api.forgetPast })

end Wiring

/-- The events of the caches of the control loop for function ingresses. -/
inductive FunctionIngressChange where
  /-- An event about a function ingress. -/
  | primary (event : WatchEvent FunctionIngress)
  /-- An event about an ingress. -/
  | ingress (event : WatchEvent Ingress)

/-- The wiring of the control loop for function ingresses. -/
def FunctionIngressLoop.wiring : Wiring FunctionIngressView FunctionIngressChange where
  sync := FunctionIngressView.sync
  watch? loop
    | .primary event => watchPrimary? loop event
    | .ingress event => watchIngress? loop event
  api := FunctionIngressView.api
  withApi view api := { view with api := api }

/-- The events of the caches of the control loop for functions. -/
inductive FunctionChange where
  /-- An event about a function. -/
  | primary (event : WatchEvent Function)
  /-- An event about a deployment. -/
  | deployment (event : WatchEvent Deployment)
  /-- An event about a service. -/
  | service (event : WatchEvent Service)

/-- The wiring of the control loop for functions. -/
def FunctionLoop.wiring : Wiring FunctionView FunctionChange where
  sync := FunctionView.sync
  watch? loop
    | .primary event => watchPrimary? loop event
    | .deployment event => watchDeployment? loop event
    | .service event => watchService? loop event
  api := FunctionView.api
  withApi view api := { view with api := api }

end FunctionOperator
