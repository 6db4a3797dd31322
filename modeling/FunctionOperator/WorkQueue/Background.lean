import FunctionOperator.WorkQueue.Worker

/-!
# Workers in the background

A pool whose workers may have been started and told to stop. Read `BackgroundPool.settle` first:
running workers sync whatever waits before anybody looks. `BackgroundPool.cancel` lets them finish
what they hold and shuts the queue down.
-/

namespace FunctionOperator

/-- A pool and the workers that run in it. -/
structure BackgroundPool where
  /-- The pool. -/
  pool : WorkerPool
  /-- Whether the pool was started and has not ended. -/
  running : Bool := false
  /-- The number of running workers; a pool may run without any. -/
  workers : Nat := 0
  /-- Whether workers were told to stop. -/
  cancelled : Bool := false

namespace BackgroundPool

variable {γ : Type}

/-- Changes the queue. -/
def mapQueue (background : BackgroundPool) (change : WorkQueue → WorkQueue) : BackgroundPool :=
  { background with pool := { background.pool with queue := change background.pool.queue } }

/-- Lets running workers sync until no key waits, at most `fuel` times. -/
def settle (sync : String → γ → SyncResult × γ) (background : BackgroundPool) (state : γ)
    (fuel : Nat) : BackgroundPool × γ :=
  if background.workers = 0 then (background, state)
  else
    let (pool, state) := background.pool.drain sync state fuel
    ({ background with pool := pool }, state)

/-- Lets one more worker ask for a key; after the cancellation it does not even ask. -/
def work (sync : String → γ → SyncResult × γ) (background : BackgroundPool) (state : γ) :
    WorkerPool.WorkStep × BackgroundPool × γ :=
  if background.cancelled then (.ended, background, state)
  else
    let (step, pool, state) := background.pool.work sync state
    (step, { background with pool := pool }, state)

/-- Starts workers; they stop at once if they were told to. -/
def start (background : BackgroundPool) (workers : Nat) : BackgroundPool :=
  if background.cancelled then background.mapQueue WorkQueue.shutDown
  else { background with running := true, workers := background.workers + workers }

/-- Tells the workers to stop, and whether any were running. -/
def cancel (background : BackgroundPool) : Bool × BackgroundPool :=
  if background.running then
    (true, { background with running := false, workers := 0, cancelled := true }.mapQueue
      WorkQueue.shutDown)
  else (false, { background with cancelled := true })

end BackgroundPool

end FunctionOperator
