import FunctionOperator.WorkQueue
import Mathlib.Data.List.Perm.Subperm
import Mathlib.Tactic.SplitIfs

/-!
# Runs of a work queue

A queue together with the workers that hold its keys, and everything that may happen to it, in any
order. Read `StaffedQueue.act?` first: every action is one call of a queue operation, a worker gives
back only a key that it holds, and a delayed key is added once its time has come. A `Run` lists the
events that a bystander sees. Time passes by `QueueAction.elapse` and delayed keys are added by
`QueueAction.fire`; `advance_eq_fires` shows that `WorkQueue.advance` is such a sequence.
-/

namespace FunctionOperator

namespace WorkQueue

/-- Adds one delayed key. -/
def fire (queue : WorkQueue) (entry : DelayedKey) : WorkQueue :=
  { queue with delayed := queue.delayed.erase entry }.add entry.key

/-- The time until which a key is delayed. -/
def dueAfter (queue : WorkQueue) (delay : Duration) : Nat :=
  queue.now + min delay.nanos longestDelay

/-! ## What the operations do -/

variable {queue : WorkQueue} {key : String}

/-- Adding a key changes nothing, or makes a held key dirty, or makes an idle key dirty and lets it
wait. -/
theorem add_cases (queue : WorkQueue) (key : String) :
    (queue.add key = queue ∧ (queue.shuttingDown = true ∨ key ∈ queue.dirty)) ∨
    (queue.add key = { queue with dirty := key :: queue.dirty } ∧
      queue.shuttingDown = false ∧ key ∉ queue.dirty ∧ key ∈ queue.inFlight) ∨
    (queue.add key = { queue with dirty := key :: queue.dirty, waiting := queue.waiting ++ [key] } ∧
      queue.shuttingDown = false ∧ key ∉ queue.dirty ∧ key ∉ queue.inFlight) := by
  unfold add
  split
  · next h => exact .inl ⟨rfl, by simpa using h⟩
  · next h =>
    obtain ⟨hopen, hdirty⟩ : queue.shuttingDown = false ∧ key ∉ queue.dirty := by simpa using h
    by_cases hheld : key ∈ queue.inFlight
    · exact .inr (.inl ⟨by simp [hheld], hopen, hdirty, hheld⟩)
    · exact .inr (.inr ⟨by simp [hheld], hopen, hdirty, hheld⟩)

/-- Adding a key with a delay adds it, does nothing, or keeps it until it is due. -/
theorem add_after_cases (queue : WorkQueue) (key : String) (delay : Duration) :
    (queue.addAfter key delay = queue.add key ∧ delay.nanos = 0) ∨
    (queue.addAfter key delay = queue ∧ delay.nanos ≠ 0 ∧ queue.shuttingDown = true) ∨
    (queue.addAfter key delay =
        { queue with delayed := queue.delayed ++ [⟨key, queue.dueAfter delay⟩] } ∧
      delay.nanos ≠ 0 ∧ queue.shuttingDown = false) := by
  unfold addAfter
  split
  · next h => exact .inl ⟨rfl, h⟩
  · next h =>
    split
    · next hclosed => exact .inr (.inl ⟨rfl, h, hclosed⟩)
    · next hclosed => exact .inr (.inr ⟨rfl, h, by simpa using hclosed⟩)

/-- A key that is handed out was the first to wait. -/
theorem take_eq_some {key : String} {next : WorkQueue} (h : queue.take? = some (key, next)) :
    ∃ rest, queue.waiting = key :: rest ∧ next = { queue with
      waiting := rest
      dirty := queue.dirty.filter (· != key)
      inFlight := key :: queue.inFlight.filter (· != key) } := by
  unfold take? at h
  split at h
  · cases h
  · next first rest hwaiting =>
    obtain ⟨rfl, rfl⟩ : first = key ∧ _ = next := by simpa using h
    exact ⟨rest, hwaiting, rfl⟩

/-- A key that is given back is held no more, and waits again if it is dirty. -/
theorem release_cases (queue : WorkQueue) (key : String) :
    (queue.release key = { queue with
        inFlight := queue.inFlight.filter (· != key), waiting := queue.waiting ++ [key] } ∧
      key ∈ queue.dirty ∧ queue.shuttingDown = false) ∨
    (queue.release key = { queue with inFlight := queue.inFlight.filter (· != key) } ∧
      (queue.shuttingDown = false → key ∉ queue.dirty)) := by
  unfold release
  simp only
  split
  · next h => exact .inl ⟨rfl, by simpa using h⟩
  · next h => exact .inr ⟨rfl, fun hopen hdirty => h (by simp [hopen, hdirty])⟩

@[simp] theorem add_delayed (queue : WorkQueue) (key : String) :
    (queue.add key).delayed = queue.delayed := by
  obtain ⟨h, -⟩ | ⟨h, -⟩ | ⟨h, -⟩ := add_cases queue key <;> rw [h]

@[simp] theorem add_now (queue : WorkQueue) (key : String) : (queue.add key).now = queue.now := by
  obtain ⟨h, -⟩ | ⟨h, -⟩ | ⟨h, -⟩ := add_cases queue key <;> rw [h]

@[simp] theorem add_shutting_down (queue : WorkQueue) (key : String) :
    (queue.add key).shuttingDown = queue.shuttingDown := by
  obtain ⟨h, -⟩ | ⟨h, -⟩ | ⟨h, -⟩ := add_cases queue key <;> rw [h]

@[simp] theorem add_in_flight (queue : WorkQueue) (key : String) :
    (queue.add key).inFlight = queue.inFlight := by
  obtain ⟨h, -⟩ | ⟨h, -⟩ | ⟨h, -⟩ := add_cases queue key <;> rw [h]

@[simp] theorem add_limiter (queue : WorkQueue) (key : String) :
    (queue.add key).limiter = queue.limiter := by
  obtain ⟨h, -⟩ | ⟨h, -⟩ | ⟨h, -⟩ := add_cases queue key <;> rw [h]

@[simp] theorem add_after_limiter (queue : WorkQueue) (key : String) (delay : Duration) :
    (queue.addAfter key delay).limiter = queue.limiter := by
  obtain ⟨h, -⟩ | ⟨h, -⟩ | ⟨h, -⟩ := add_after_cases queue key delay
  · rw [h, add_limiter]
  · rw [h]
  · rw [h]

@[simp] theorem release_limiter (queue : WorkQueue) (key : String) :
    (queue.release key).limiter = queue.limiter := by
  obtain ⟨h, -⟩ | ⟨h, -⟩ := release_cases queue key <;> rw [h]

@[simp] theorem add_after_shutting_down (queue : WorkQueue) (key : String) (delay : Duration) :
    (queue.addAfter key delay).shuttingDown = queue.shuttingDown := by
  obtain ⟨h, -⟩ | ⟨h, -⟩ | ⟨h, -⟩ := add_after_cases queue key delay
  · rw [h, add_shutting_down]
  · rw [h]
  · rw [h]

@[simp] theorem release_shutting_down (queue : WorkQueue) (key : String) :
    (queue.release key).shuttingDown = queue.shuttingDown := by
  obtain ⟨h, -⟩ | ⟨h, -⟩ := release_cases queue key <;> rw [h]

theorem take_shutting_down {next : WorkQueue} (h : queue.take? = some (key, next)) :
    next.shuttingDown = queue.shuttingDown := by
  obtain ⟨rest, -, rfl⟩ := take_eq_some h
  rfl

/-! ## Time -/

/-- Adding a key does not look at the delayed ones. -/
theorem add_with_delayed (queue : WorkQueue) (key : String) (delayed : List DelayedKey) :
    ({ queue with delayed := delayed }).add key = { queue.add key with delayed := delayed } := by
  unfold add
  simp only
  split
  · rfl
  · split <;> rfl

/-- Adding keys does not look at the delayed ones. -/
theorem foldl_add_with_delayed (keys : List String) (queue : WorkQueue)
    (delayed : List DelayedKey) :
    keys.foldl add { queue with delayed := delayed } =
      { keys.foldl add queue with delayed := delayed } := by
  induction keys generalizing queue with
  | nil => rfl
  | cons key keys ih => rw [List.foldl_cons, add_with_delayed, ih, List.foldl_cons]

/-- Delayed keys that are added one by one are the first occurrences of their entries. -/
theorem foldl_fire (queue : WorkQueue) (entries : List DelayedKey) :
    entries.foldl fire queue =
      { (entries.map (·.key)).foldl add queue with delayed := queue.delayed.diff entries } := by
  induction entries generalizing queue with
  | nil =>
    show queue = { queue with delayed := queue.delayed.diff [] }
    rw [List.diff_nil]
  | cons entry entries ih =>
    rw [List.foldl_cons, ih, fire, add_with_delayed, foldl_add_with_delayed, List.map_cons,
      List.foldl_cons, List.diff_cons]

/-- Taking out the entries that pass a test leaves those that do not. -/
theorem diff_filter (entries : List DelayedKey) (test : DelayedKey → Bool) :
    entries.diff (entries.filter test) = entries.filter (!test ·) := by
  induction entries with
  | nil => rfl
  | cons entry entries ih =>
    by_cases h : test entry
    · rw [List.filter_cons_of_pos h, List.diff_cons, List.erase_cons_head, ih,
        List.filter_cons_of_neg (by simp [h])]
    · have hout : entry ∉ entries.filter test := fun hmem => h (List.mem_filter.1 hmem).2
      rw [List.filter_cons_of_neg h, List.cons_diff_of_not_mem hout, ih,
        List.filter_cons_of_pos (by simp [h])]

/-- Letting time pass adds the delayed keys whose time has come, one after the other. -/
theorem advance_eq_fires (queue : WorkQueue) (nanos : Nat) :
    queue.advance nanos =
      ({ queue with now := queue.now + nanos }).due.foldl fire
        { queue with now := queue.now + nanos } := by
  rw [foldl_fire, advance, fireDue]
  have hdue : ({ queue with now := queue.now + nanos } : WorkQueue).due.Perm
      (queue.delayed.filter fun entry => entry.due ≤ queue.now + nanos) :=
    List.mergeSort_perm _ _
  -- the due entries come sorted, but taking them away does not depend on their order
  have hrest : (queue.delayed.filter fun entry => queue.now + nanos < entry.due) =
      queue.delayed.diff ({ queue with now := queue.now + nanos } : WorkQueue).due := by
    rw [List.Perm.diff_left _ hdue, diff_filter]
    refine List.filter_congr fun entry _ => ?_
    rw [← decide_not]
    exact decide_eq_decide.2 Nat.not_le.symm
  rw [hrest, foldl_add_with_delayed]

end WorkQueue

/-! ## Actions and events -/

/-- What may happen to a queue and its workers. -/
inductive QueueAction where
  /-- A key is added. -/
  | add (key : String)
  /-- A key is added with a delay. -/
  | addAfter (key : String) (delay : Duration)
  /-- A key is added with the delay that its failures call for. -/
  | addRateLimited (key : String)
  /-- The failures of a key are forgotten. -/
  | forget (key : String)
  /-- Time passes, in nanoseconds. -/
  | elapse (nanos : Nat)
  /-- A delayed key whose time has come is added. -/
  | fire (entry : DelayedKey)
  /-- A worker asks for a key. -/
  | take (worker : Nat)
  /-- A worker gives back a key that it holds. -/
  | release (worker : Nat) (key : String)
  /-- The queue is shut down. -/
  | shutDown

/-- What a bystander sees of a queue. -/
inductive QueueEvent where
  /-- A key is added. -/
  | added (key : String)
  /-- A key will be added after a delay, by this entry. -/
  | postponed (entry : DelayedKey) (delay : Duration)
  /-- The key of an entry is added. -/
  | matured (entry : DelayedKey)
  /-- Time passes. -/
  | elapsed (nanos : Nat)
  /-- A key is handed to a worker. -/
  | taken (key : String)
  /-- A worker learns that there will be no more keys. -/
  | ended
  /-- A key is given back. -/
  | released (key : String)
  /-- The queue is shut down. -/
  | closed
deriving DecidableEq

/-- A queue and the keys that its workers hold. -/
structure StaffedQueue where
  /-- The queue. -/
  queue : WorkQueue
  /-- The keys that were handed out and not given back, each with its worker. -/
  held : List (Nat × String)

namespace StaffedQueue

/-- The empty queue, whose workers hold nothing. -/
def new (backoff : Backoff) : StaffedQueue := ⟨.new backoff, []⟩

/-- Changes the queue. -/
def mapQueue (state : StaffedQueue) (change : WorkQueue → WorkQueue) : StaffedQueue :=
  { state with queue := change state.queue }

/-- Lets an action happen. A delayed key is added only when it is due, and a worker gives back only
what it holds; a worker that gets no key leaves everything as it is. -/
def act? (state : StaffedQueue) : QueueAction → Option StaffedQueue
  | .add key => some (state.mapQueue (·.add key))
  | .addAfter key delay => some (state.mapQueue (·.addAfter key delay))
  | .addRateLimited key => some (state.mapQueue (·.addRateLimited key))
  | .forget key => some (state.mapQueue (·.forget key))
  | .elapse nanos => some (state.mapQueue fun queue => { queue with now := queue.now + nanos })
  | .fire entry =>
    if entry ∈ state.queue.delayed ∧ entry.due ≤ state.queue.now then
      some (state.mapQueue (·.fire entry))
    else none
  | .take worker =>
    match state.queue.take? with
    | some (key, queue) => some ⟨queue, (worker, key) :: state.held⟩
    | none => some state
  | .release worker key =>
    if (worker, key) ∈ state.held then
      some ⟨state.queue.release key, state.held.erase (worker, key)⟩
    else none
  | .shutDown => some (state.mapQueue WorkQueue.shutDown)

/-- What is seen of a key that is added with a delay. -/
def observeAfter (queue : WorkQueue) (key : String) (delay : Duration) : List QueueEvent :=
  if delay.nanos = 0 then [.added key]
  else if queue.shuttingDown then []
  else [.postponed ⟨key, queue.dueAfter delay⟩ delay]

/-- What is seen of an action. -/
def observe (state : StaffedQueue) : QueueAction → List QueueEvent
  | .add key => [.added key]
  | .addAfter key delay => observeAfter state.queue key delay
  | .addRateLimited key => observeAfter state.queue key (state.queue.limiter.record key).1
  | .forget _ => []
  | .elapse nanos => [.elapsed nanos]
  | .fire entry => [.matured entry]
  | .take _ =>
    match state.queue.take? with
    | some (key, _) => [.taken key]
    | none => if state.queue.shuttingDown then [.ended] else []
  | .release _ key => [.released key]
  | .shutDown => [.closed]

/-- The states that a queue can reach from the empty one, each with all that was seen before. -/
inductive Run (backoff : Backoff) : List QueueEvent → StaffedQueue → Prop where
  /-- Nothing has happened. -/
  | start : Run backoff [] (new backoff)
  /-- One more action happens. -/
  | step {events state next} (action : QueueAction) (hrun : Run backoff events state)
      (hact : state.act? action = some next) : Run backoff (events ++ state.observe action) next

/-- Nothing but the shutdown itself makes a queue refuse keys. -/
theorem act_shutting_down {state next : StaffedQueue} {action : QueueAction}
    (hact : state.act? action = some next) :
    next.queue.shuttingDown = true ↔
      state.queue.shuttingDown = true ∨ .closed ∈ state.observe action := by
  cases action with
  | add | forget | elapse =>
    cases hact
    simp [mapQueue, observe, WorkQueue.forget]
  | addAfter key delay =>
    cases hact
    simp only [mapQueue, WorkQueue.add_after_shutting_down, observe, observeAfter]
    split_ifs <;> simp
  | addRateLimited key =>
    cases hact
    simp only [mapQueue, WorkQueue.addRateLimited, WorkQueue.add_after_shutting_down, observe,
      observeAfter]
    split_ifs <;> simp
  | fire entry =>
    simp only [act?, Option.ite_none_right_eq_some, Option.some.injEq] at hact
    obtain ⟨-, rfl⟩ := hact
    simp [mapQueue, WorkQueue.fire, observe]
  | take worker =>
    simp only [act?] at hact
    split at hact
    · next htake =>
      cases hact
      simp [observe, htake, WorkQueue.take_shutting_down htake]
    · next htake =>
      cases hact
      simp only [observe, htake]
      split <;> simp_all
  | release worker key =>
    simp only [act?, Option.ite_none_right_eq_some, Option.some.injEq] at hact
    obtain ⟨-, rfl⟩ := hact
    simp [observe]
  | shutDown =>
    cases hact
    simp [mapQueue, WorkQueue.shutDown, observe]

/-- A queue refuses keys once it was shut down. -/
theorem Run.shutting_down_iff {backoff : Backoff} {events : List QueueEvent} {state : StaffedQueue}
    (h : Run backoff events state) :
    state.queue.shuttingDown = true ↔ .closed ∈ events := by
  induction h with
  | start => simp [new, WorkQueue.new]
  | step action _ hact ih => rw [act_shutting_down hact, ih, List.mem_append]

end StaffedQueue

end FunctionOperator
