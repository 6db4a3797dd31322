import FunctionOperator.WorkQueue

/-!
# Tasks that wait for a queue

Tasks that are blocked until the queue has a key for them, or until no worker holds a key any
more. After every change of the queue, `TaskQueue.settle` lets all tasks run that can run: the
task that has waited longest gets the next key.
-/

namespace FunctionOperator

/-- A task that waits for a queue. -/
inductive WaitingTask where
  /-- It waits for a key. -/
  | taker (name : String)
  /-- It waits until no worker holds a key. -/
  | drainer (name : String)

/-- What a task came back with. -/
inductive TaskResult where
  /-- A key, or nothing because the queue is shutting down. -/
  | took (key : Option String)
  /-- No worker holds a key. -/
  | drained

/-- A queue and the tasks that wait for it, oldest first. -/
structure TaskQueue where
  /-- The queue. -/
  queue : WorkQueue
  /-- The tasks. -/
  tasks : List WaitingTask

namespace TaskQueue

/-- Lets one task look at the queue, after what the tasks before it came back with. -/
def settleTask (settled : List (String × TaskResult) × TaskQueue) (task : WaitingTask) :
    List (String × TaskResult) × TaskQueue :=
  let (results, state) := settled
  match task with
  | .taker name =>
    match state.queue.take? with
    | some (key, queue) => (results ++ [(name, .took (some key))], { state with queue := queue })
    | none =>
      if state.queue.shuttingDown then (results ++ [(name, .took none)], state)
      else (results, { state with tasks := state.tasks ++ [task] })
  | .drainer name =>
    if state.queue.drained then (results ++ [(name, .drained)], state)
    else (results, { state with tasks := state.tasks ++ [task] })

/-- Lets the tasks run that can run, oldest first, and lists what they came back with. -/
def settle (state : TaskQueue) : List (String × TaskResult) × TaskQueue :=
  state.tasks.foldl settleTask ([], { state with tasks := [] })

end TaskQueue

end FunctionOperator
