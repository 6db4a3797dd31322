import FunctionOperator.Metrics
import FunctionOperator.Sync.Program
import FunctionOperator.WorkQueue

/-!
# Workers

A worker takes a key from the queue, syncs it and releases it. Read `WorkerPool.finish` first: a
success or a final failure forgets the key's earlier failures, any other failure brings the key
back after its backoff, and every key that was taken is released once.
-/

namespace FunctionOperator

/-- The workers of one control loop. -/
structure WorkerPool where
  /-- The kind of the primary objects. -/
  kind : String
  /-- The queue. -/
  queue : WorkQueue
  /-- The counters. -/
  metrics : Metrics

namespace WorkerPool

/-- How a result is counted. -/
def label : SyncResult → SyncLabel
  | .ok _ => .success
  | .error failure => if failure.retriable then .retry else .dropped

/-- Ends the work on a key with the result of its sync. -/
def finish (pool : WorkerPool) (key : String) (result : SyncResult) : WorkerPool :=
  let label := label result
  let queue := match label with
    | .retry => pool.queue.addRateLimited key
    | _ => pool.queue.forget key
  let queue := queue.release key
  let metrics := pool.metrics.recordSync pool.kind label.name .zero
  { pool with
    queue := queue
    metrics := metrics.setQueueDepth pool.kind queue.waiting.length }

/-- Lets a worker take and sync one key, if one waits. The sync may change a state of its own. -/
def processNext? {γ : Type} (sync : String → γ → SyncResult × γ) (pool : WorkerPool) (state : γ) :
    Option (WorkerPool × γ) := do
  let (key, queue) ← pool.queue.take?
  let (result, state) := sync key state
  return ({ pool with queue := queue }.finish key result, state)

/-- What became of a worker that asked for a key. -/
inductive WorkStep where
  /-- It synced a key. -/
  | worked
  /-- There is nothing to wait for: the queue is shutting down. -/
  | ended
  /-- It waits for a key. -/
  | blocked
deriving DecidableEq

/-- Lets one worker ask for a key, and sync it if there is one. -/
def work {γ : Type} (sync : String → γ → SyncResult × γ) (pool : WorkerPool) (state : γ) :
    WorkStep × WorkerPool × γ :=
  match pool.processNext? sync state with
  | some (pool, state) => (.worked, pool, state)
  | none => (if pool.queue.shuttingDown then .ended else .blocked, pool, state)

/-- Lets workers sync until no key waits, at most `fuel` times. -/
def drain {γ : Type} (sync : String → γ → SyncResult × γ) (pool : WorkerPool) (state : γ) :
    Nat → WorkerPool × γ
  | 0 => (pool, state)
  | fuel + 1 =>
    match pool.processNext? sync state with
    | none => (pool, state)
    | some (pool, state) => drain sync pool state fuel

/-- Lets workers run for a time: they sync what waits, and then what falls due, in the order of
time. At most `fuel` delayed keys are waited for, and as many keys are synced at one time. -/
def runFor {γ : Type} (sync : String → γ → SyncResult × γ) (until_ : Nat) (pool : WorkerPool)
    (state : γ) : Nat → WorkerPool × γ
  | 0 => (pool, state)
  | fuel + 1 =>
    let (pool, state) := pool.drain sync state fuel
    match pool.queue.nextDue? with
    | some due =>
      if due ≤ until_ then
        runFor sync until_ { pool with queue := pool.queue.advance (due - pool.queue.now) } state
          fuel
      else ({ pool with queue := pool.queue.advance (until_ - pool.queue.now) }, state)
    | none => ({ pool with queue := pool.queue.advance (until_ - pool.queue.now) }, state)

/-- The text that shows the workers of a queue in a diagnostic. -/
def diagnostic (name : String) (pool : WorkerPool) : String :=
  "WorkerPool \x7b queue: " ++ pool.queue.diagnostic name ++ ", kind: \"" ++ pool.kind ++
    "\", .. \x7d"

end WorkerPool

end FunctionOperator
