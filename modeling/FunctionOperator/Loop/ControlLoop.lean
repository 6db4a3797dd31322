import FunctionOperator.Cache.Routing
import FunctionOperator.Loop.ScriptedApi
import FunctionOperator.WorkQueue.Worker

/-!
# Control loops

What a control loop does with its queue, whatever it syncs: `γ` is what it sees of the world.
-/

namespace FunctionOperator

/-- A control loop. -/
structure ControlLoop (γ : Type) where
  /-- What the loop sees: its caches and the API. -/
  view : γ
  /-- Its queue, and the counters of its workers. -/
  pool : WorkerPool

namespace ControlLoop

variable {γ : Type}

/-- Changes the queue. -/
def mapQueue (loop : ControlLoop γ) (change : WorkQueue → WorkQueue) : ControlLoop γ :=
  { loop with pool := { loop.pool with queue := change loop.pool.queue } }

/-- Adds the keys that notifications call for. -/
def route {α : Type} (loop : ControlLoop γ) (route? : Notification α → Option String)
    (notifications : List (Notification α)) : ControlLoop γ :=
  loop.mapQueue (·.addRoutes route? notifications)

/-- Lets one worker ask for a key. -/
def work (sync : String → γ → SyncResult × γ) (loop : ControlLoop γ) :
    WorkerPool.WorkStep × ControlLoop γ :=
  let (step, pool, view) := loop.pool.work sync loop.view
  (step, ⟨view, pool⟩)

/-- Lets a worker run for a time in nanoseconds; after that the queue is shut down. Failures come
back no sooner than a millisecond later, which bounds the number of syncs. -/
def runFor (sync : String → γ → SyncResult × γ) (nanos : Nat) (loop : ControlLoop γ) :
    ControlLoop γ :=
  let queue := loop.pool.queue
  let keys := queue.waiting.length + queue.delayed.length + 1
  let fuel := (nanos / 1_000_000 + 2) * keys
  let (pool, view) := loop.pool.runFor sync (queue.now + nanos) loop.view fuel
  (⟨view, pool⟩ : ControlLoop γ).mapQueue WorkQueue.shutDown

end ControlLoop

end FunctionOperator
