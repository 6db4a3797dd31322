import FunctionOperator.Backoff

/-!
# The work queue

Keys that wait for a worker. A key waits at most once; a key that is added while a worker holds
it waits again as soon as the worker releases it. So one worker at a time holds a key, and no
notification is lost. Read `WorkQueue.add`, `WorkQueue.take?` and `WorkQueue.release` first.

The queue also holds the keys that will be added later, with a clock that only `advance` moves.
-/

namespace FunctionOperator

/-- A key that will be added when its time has come. -/
structure DelayedKey where
  /-- The key. -/
  key : String
  /-- The time in nanoseconds. -/
  due : Nat
deriving DecidableEq

/-- The state of a work queue. -/
structure WorkQueue where
  /-- The keys that wait, in the order in which they will be handed out. -/
  waiting : List String
  /-- The keys whose object has to be looked at again. -/
  dirty : List String
  /-- The keys that workers hold. -/
  inFlight : List String
  /-- Whether the queue accepts no more keys. -/
  shuttingDown : Bool
  /-- How often keys have failed. -/
  limiter : RateLimiter
  /-- The keys that will be added, in the order in which they were delayed. -/
  delayed : List DelayedKey
  /-- The time in nanoseconds. -/
  now : Nat

namespace WorkQueue

/-- The empty queue. -/
def new (backoff : Backoff) : WorkQueue where
  waiting := []
  dirty := []
  inFlight := []
  shuttingDown := false
  limiter := .new backoff
  delayed := []
  now := 0

/-- Marks a key for a worker. A key that waits already is not queued twice, a key that a worker
holds waits until it is released, and after the shutdown nothing happens. -/
def add (queue : WorkQueue) (key : String) : WorkQueue :=
  if queue.shuttingDown || queue.dirty.contains key then queue
  else
    let queue := { queue with dirty := key :: queue.dirty }
    if queue.inFlight.contains key then queue
    else { queue with waiting := queue.waiting ++ [key] }

/-- The longest time in nanoseconds that a key can be delayed: thirty years of 365 days. -/
def longestDelay : Nat := 30 * 365 * 86400 * 1_000_000_000

/-- Adds a key once a delay has passed, or after the longest delay. -/
def addAfter (queue : WorkQueue) (key : String) (delay : Duration) : WorkQueue :=
  if delay.nanos = 0 then queue.add key
  else if queue.shuttingDown then queue
  else { queue with
    delayed := queue.delayed ++ [⟨key, queue.now + min delay.nanos longestDelay⟩] }

/-- Adds a key after the delay that its failures call for. -/
def addRateLimited (queue : WorkQueue) (key : String) : WorkQueue :=
  let (delay, limiter) := queue.limiter.record key
  { queue with limiter := limiter }.addAfter key delay

/-- Forgets the failures of a key. -/
def forget (queue : WorkQueue) (key : String) : WorkQueue :=
  { queue with limiter := queue.limiter.forget key }

/-- The number of failures of a key. -/
def requeues (queue : WorkQueue) (key : String) : Nat := queue.limiter.requeues key

/-- Hands the first waiting key to a worker. -/
def take? (queue : WorkQueue) : Option (String × WorkQueue) :=
  match queue.waiting with
  | [] => none
  | key :: waiting => some (key, { queue with
      waiting := waiting
      dirty := queue.dirty.filter (· != key)
      inFlight := key :: queue.inFlight.filter (· != key) })

/-- Takes a key back from its worker. A key that became dirty waits again, unless the queue is
shutting down. -/
def release (queue : WorkQueue) (key : String) : WorkQueue :=
  let queue := { queue with inFlight := queue.inFlight.filter (· != key) }
  if queue.dirty.contains key && !queue.shuttingDown then
    { queue with waiting := queue.waiting ++ [key] }
  else queue

/-- Accepts no more keys. Keys that wait are still handed out. -/
def shutDown (queue : WorkQueue) : WorkQueue := { queue with shuttingDown := true }

/-- Whether no worker holds a key. -/
def drained (queue : WorkQueue) : Bool := queue.inFlight.isEmpty

/-- The millisecond at which a delayed key is added: the first one when its time has come. -/
def DelayedKey.tick (delayed : DelayedKey) : Nat := (delayed.due + 999_999) / 1_000_000

/-- The delayed keys whose time has come, in the order in which they are added. -/
def due (queue : WorkQueue) : List DelayedKey :=
  (queue.delayed.filter fun delayed => delayed.due ≤ queue.now).mergeSort fun first second =>
    DelayedKey.tick first ≤ DelayedKey.tick second

/-- Adds the delayed keys whose time has come. -/
def fireDue (queue : WorkQueue) : WorkQueue :=
  let keys := queue.due.map (·.key)
  let queue := { queue with delayed := queue.delayed.filter fun delayed => queue.now < delayed.due }
  keys.foldl add queue

/-- Lets time pass. -/
def advance (queue : WorkQueue) (nanos : Nat) : WorkQueue :=
  { queue with now := queue.now + nanos }.fireDue

/-- The first millisecond at which a delayed key will be added, in nanoseconds. -/
def nextDue? (queue : WorkQueue) : Option Nat :=
  (queue.delayed.map fun delayed => DelayedKey.tick delayed * 1_000_000).min?

/-- The text that shows a queue in a diagnostic. -/
def diagnostic (name : String) (queue : WorkQueue) : String :=
  "WorkQueue \x7b name: \"" ++ name ++ "\", len: " ++ toString queue.waiting.length ++
    ", .. \x7d"

end WorkQueue

end FunctionOperator
