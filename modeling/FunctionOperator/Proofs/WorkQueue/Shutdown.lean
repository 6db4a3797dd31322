import FunctionOperator.Proofs.WorkQueue.SingleFlight
import FunctionOperator.WorkQueue.Tasks

/-!
# The end of a queue

What comes back from a queue that was shut down, however it goes on. Read `WorkQueue.next` and
`WorkQueue.result?` first: a step is an action of anybody, also of one who gives back a key that he
does not hold, or a blocked task that looks at the queue again. `Closing` is what every step keeps,
and `ClosesDown` collects what follows for every continuation; `settle_eq` shows that
`TaskQueue.settle` is such a continuation.
-/

namespace FunctionOperator

/-- What may happen to a queue. -/
inductive QueueStep where
  /-- An action of a worker, a controller or a timer. -/
  | act (action : QueueAction)
  /-- A blocked task looks at the queue. -/
  | resume (task : WaitingTask)

namespace QueueStep

/-- Whether somebody asks for a key. -/
def asks : QueueStep → Bool
  | .act (.take _) => true
  | .resume (.taker _) => true
  | _ => false

/-- The key that is given back. -/
def releasedKey? : QueueStep → Option String
  | .act (.release _ key) => some key
  | _ => none

end QueueStep

/-- What one who asked for a key came back with. -/
def TaskResult.answer? : TaskResult → Option (Option String)
  | .took key => some key
  | .drained => none

namespace WorkQueue

variable {queue : WorkQueue}

/-! ## Steps -/

/-- The queue after somebody asked for a key. -/
def handOut (queue : WorkQueue) : WorkQueue :=
  match queue.take? with
  | some (_, next) => next
  | none => queue

/-- What an action does to a queue, whoever acts and whenever: any key may be given back, and any
delayed key may be added. -/
def perform (queue : WorkQueue) : QueueAction → WorkQueue
  | .add key => queue.add key
  | .addAfter key delay => queue.addAfter key delay
  | .addRateLimited key => queue.addRateLimited key
  | .forget key => queue.forget key
  | .elapse nanos => { queue with now := queue.now + nanos }
  | .fire entry => queue.fire entry
  | .take _ => queue.handOut
  | .release _ key => queue.release key
  | .shutDown => queue.shutDown

/-- The queue after a step. -/
def next (queue : WorkQueue) : QueueStep → WorkQueue
  | .act action => queue.perform action
  | .resume (.taker _) => queue.handOut
  | .resume (.drainer _) => queue

/-- The queue after some steps. -/
def after (queue : WorkQueue) (steps : List QueueStep) : WorkQueue := steps.foldl next queue

/-- What one who asks for a key comes back with: a key, or nothing because the queue is shutting
down. If there is neither, he waits. -/
def reply? (queue : WorkQueue) : Option TaskResult :=
  match queue.take? with
  | some (key, _) => some (.took (some key))
  | none => if queue.shuttingDown then some (.took none) else none

/-- What comes back at a step. -/
def result? (queue : WorkQueue) : QueueStep → Option TaskResult
  | .act (.take _) => queue.reply?
  | .resume (.taker _) => queue.reply?
  | .resume (.drainer _) => if queue.drained then some .drained else none
  | .act _ => none

/-- What comes back at some steps. -/
def results (queue : WorkQueue) : List QueueStep → List TaskResult
  | [] => []
  | step :: steps => (queue.result? step).toList ++ (queue.next step).results steps

/-- What those came back with who asked for a key at some steps. -/
def answers (queue : WorkQueue) (steps : List QueueStep) : List (Option String) :=
  (queue.results steps).filterMap TaskResult.answer?

theorem after_append (queue : WorkQueue) (steps later : List QueueStep) :
    queue.after (steps ++ later) = (queue.after steps).after later :=
  List.foldl_append

theorem answers_cons (queue : WorkQueue) (step : QueueStep) (steps : List QueueStep) :
    queue.answers (step :: steps) =
      ((queue.result? step).bind TaskResult.answer?).toList ++ (queue.next step).answers steps := by
  rw [answers, results, List.filterMap_append]
  cases hresult : queue.result? step with
  | none => rfl
  | some result => cases result <;> rfl

/-! ## What a step changes -/

/-- Whoever asks takes the first key that waits, and holds it. -/
theorem hand_out_cases (queue : WorkQueue) :
    (queue.waiting = [] ∧ queue.handOut = queue ∧
      queue.reply? = if queue.shuttingDown then some (.took none) else none) ∨
    ∃ key rest, queue.waiting = key :: rest ∧ queue.reply? = some (.took (some key)) ∧
      queue.handOut = { queue with
        waiting := rest
        dirty := queue.dirty.filter (· != key)
        inFlight := key :: queue.inFlight.filter (· != key) } := by
  unfold handOut reply? take?
  cases hwaiting : queue.waiting with
  | nil => exact .inl ⟨rfl, rfl, rfl⟩
  | cons key rest => exact .inr ⟨key, rest, rfl, rfl, rfl⟩

/-- Nobody asks, so no key is handed out and none joins those that wait. The keys that are held stay
so, apart from one that is given back. -/
structure Idle (queue : WorkQueue) (step : QueueStep) : Prop where
  /-- The same keys wait. -/
  waiting : (queue.next step).waiting = queue.waiting
  /-- The queue still accepts no more keys. -/
  shutting_down : (queue.next step).shuttingDown = true
  /-- Only what is given back is held no more. -/
  mem_in_flight : ∀ key, key ∈ (queue.next step).inFlight ↔
    key ∈ queue.inFlight ∧ step.releasedKey? ≠ some key
  /-- Nobody who asked comes back. -/
  unanswered : (queue.result? step).bind TaskResult.answer? = none

/-- A queue that is shutting down adds no key. -/
theorem add_of_shutting_down (h : queue.shuttingDown = true) (key : String) :
    queue.add key = queue := by
  simp [add, h]

/-- A queue that is shutting down delays no key. -/
theorem add_after_of_shutting_down (h : queue.shuttingDown = true) (key : String)
    (delay : Duration) : queue.addAfter key delay = queue := by
  simp [addAfter, add_of_shutting_down h, h]

/-- A key that is given back to a queue that is shutting down does not wait again. -/
theorem release_of_shutting_down (h : queue.shuttingDown = true) (key : String) :
    queue.release key = { queue with inFlight := queue.inFlight.filter (· != key) } := by
  simp [release, h]

/-- What an action does to a queue that is shutting down: it asks for a key, gives one back, or has
no effect on the keys that wait and those that are held. -/
theorem perform_cases (h : queue.shuttingDown = true) (action : QueueAction) :
    (∃ worker, action = .take worker) ∨ (∃ worker key, action = .release worker key) ∨
    (QueueStep.act action).asks = false ∧ (QueueStep.act action).releasedKey? = none ∧
      queue.result? (.act action) = none ∧ ∃ limiter delayed now, queue.perform action =
        { queue with limiter := limiter, delayed := delayed, now := now } := by
  cases action with
  | take worker => exact .inl ⟨worker, rfl⟩
  | release worker key => exact .inr (.inl ⟨worker, key, rfl⟩)
  | add key => exact .inr (.inr ⟨rfl, rfl, rfl, _, _, _, add_of_shutting_down h key⟩)
  | addAfter key delay =>
    exact .inr (.inr ⟨rfl, rfl, rfl, _, _, _, add_after_of_shutting_down h key delay⟩)
  | addRateLimited key =>
    let recorded := { queue with limiter := (queue.limiter.record key).2 }
    have hshut : recorded.shuttingDown = true := h
    exact .inr (.inr ⟨rfl, rfl, rfl, _, _, _, add_after_of_shutting_down hshut key _⟩)
  | fire entry =>
    let shortened := { queue with delayed := queue.delayed.erase entry }
    have hshut : shortened.shuttingDown = true := h
    exact .inr (.inr ⟨rfl, rfl, rfl, _, _, _, add_of_shutting_down hshut entry.key⟩)
  | forget | elapse => exact .inr (.inr ⟨rfl, rfl, rfl, _, _, _, rfl⟩)
  | shutDown => exact .inr (.inr ⟨rfl, rfl, rfl, _, _, _, by rw [perform, shutDown, ← h]⟩)

/-- In a queue that is shutting down, somebody asks or the keys that wait stay as they are. -/
theorem next_cases (h : queue.shuttingDown = true) (step : QueueStep) :
    (step.asks = true ∧ step.releasedKey? = none ∧ queue.next step = queue.handOut ∧
      queue.result? step = queue.reply?) ∨
    (step.asks = false ∧ queue.Idle step) := by
  cases step with
  | resume task =>
    cases task with
    | taker name => exact .inl ⟨rfl, rfl, rfl, rfl⟩
    | drainer name =>
      refine .inr ⟨rfl, rfl, h, fun key => by simp [next, QueueStep.releasedKey?], ?_⟩
      show (if queue.drained then some TaskResult.drained else none).bind _ = none
      split <;> rfl
  | act action =>
    obtain ⟨worker, rfl⟩ | ⟨worker, key, rfl⟩ | ⟨hasks, hreleased, hresult, _, _, _, hsame⟩ :=
      perform_cases h action
    · exact .inl ⟨rfl, rfl, rfl, rfl⟩
    · have hrelease : queue.next (.act (.release worker key)) =
          { queue with inFlight := queue.inFlight.filter (· != key) } :=
        release_of_shutting_down h key
      refine .inr ⟨rfl, by rw [hrelease], by rw [hrelease, h], fun other => ?_, rfl⟩
      rw [hrelease]
      simp [QueueStep.releasedKey?, ne_comm]
    · refine .inr ⟨hasks, ?_, ?_, fun key => ?_, by rw [hresult, Option.bind_none]⟩
      · rw [next, hsame]
      · rw [next, hsame, h]
      · rw [next, hsame, hreleased]
        simp

/-- What a queue that is shutting down keeps: no key waits twice, and none waits that is held. -/
structure Closing (queue : WorkQueue) : Prop where
  /-- The queue accepts no more keys. -/
  shutting_down : queue.shuttingDown = true
  /-- No key waits twice. -/
  waiting_nodup : queue.waiting.Nodup
  /-- What waits is not held. -/
  waiting_idle : ∀ key ∈ queue.waiting, key ∉ queue.inFlight

namespace Closing

/-- A queue in step that is shut down is closing. -/
theorem of_single_flight (h : queue.SingleFlight) : queue.shutDown.Closing :=
  ⟨rfl, h.waiting_nodup, h.waiting_idle⟩

/-- Every step keeps a closing queue closing. -/
theorem next (h : queue.Closing) (step : QueueStep) : (queue.next step).Closing := by
  obtain ⟨-, -, hnext, -⟩ | ⟨-, hidle⟩ := next_cases h.shutting_down step
  · obtain ⟨-, hsame, -⟩ | ⟨key, rest, hwaiting, -, htaken⟩ := hand_out_cases queue
    · rwa [hnext, hsame]
    · have hnodup : (key :: rest).Nodup := hwaiting ▸ h.waiting_nodup
      rw [hnext, htaken]
      refine ⟨h.shutting_down, (List.nodup_cons.1 hnodup).2, fun other hother hheld => ?_⟩
      rcases List.mem_cons.1 hheld with rfl | hheld
      · exact (List.nodup_cons.1 hnodup).1 hother
      · have hmem : other ∈ queue.waiting := hwaiting ▸ List.mem_cons_of_mem _ hother
        exact h.waiting_idle other hmem (List.mem_filter.1 hheld).1
  · refine ⟨hidle.shutting_down, hidle.waiting ▸ h.waiting_nodup, fun key hkey hheld => ?_⟩
    rw [hidle.waiting] at hkey
    exact h.waiting_idle key hkey ((hidle.mem_in_flight key).1 hheld).1

/-- Whatever happens, a closing queue stays closing. -/
theorem after (h : queue.Closing) (steps : List QueueStep) : (queue.after steps).Closing := by
  induction steps generalizing queue with
  | nil => exact h
  | cons step steps ih => exact ih (h.next step)

end Closing

/-! ## What comes back -/

/-- Whoever asks a queue that is shutting down comes back with the first key that waits, if any. -/
theorem reply_of_shutting_down (h : queue.shuttingDown = true) :
    queue.reply? = some (.took queue.waiting.head?) := by
  obtain ⟨hwaiting, -, hreply⟩ | ⟨key, rest, hwaiting, hreply, -⟩ := hand_out_cases queue
  · rw [hreply, h, hwaiting]
    rfl
  · rw [hreply, hwaiting]
    rfl

/-- Whoever asks takes the first key that waits. -/
theorem hand_out_waiting (queue : WorkQueue) : queue.handOut.waiting = queue.waiting.tail := by
  obtain ⟨hwaiting, hsame, -⟩ | ⟨key, rest, hwaiting, -, htaken⟩ := hand_out_cases queue
  · rw [hsame, hwaiting, List.tail_nil]
  · rw [htaken, hwaiting, List.tail_cons]

/-- Handing out a key does not reopen the queue. -/
theorem hand_out_shutting_down (queue : WorkQueue) :
    queue.handOut.shuttingDown = queue.shuttingDown := by
  obtain ⟨-, hsame, -⟩ | ⟨key, rest, -, -, htaken⟩ := hand_out_cases queue
  · rw [hsame]
  · rw [htaken]

/-- Handing out a key takes no key from its worker. -/
theorem mem_in_flight_hand_out {key : String} (hheld : key ∈ queue.inFlight) :
    key ∈ queue.handOut.inFlight := by
  obtain ⟨-, hsame, -⟩ | ⟨first, rest, -, -, htaken⟩ := hand_out_cases queue
  · rwa [hsame]
  · rw [htaken]
    by_cases heq : key = first
    · exact heq ▸ List.mem_cons_self
    · exact List.mem_cons_of_mem _ (List.mem_filter.2 ⟨hheld, by simpa using heq⟩)

/-- Of those who ask a queue that is shutting down, each comes back: the first with the keys that
wait, in their order, and the others with nothing. -/
theorem answers_of_shutting_down (h : queue.shuttingDown = true) (steps : List QueueStep) :
    queue.answers steps =
      (queue.waiting.take (steps.countP (·.asks))).map some ++
        List.replicate (steps.countP (·.asks) - queue.waiting.length) none := by
  induction steps generalizing queue with
  | nil => simp [answers, results]
  | cons step steps ih =>
    rw [answers_cons]
    obtain ⟨hasks, -, hnext, hresult⟩ | ⟨hasks, hidle⟩ := next_cases h step
    · have hshut : (queue.next step).shuttingDown = true := by
        rw [hnext, hand_out_shutting_down, h]
      rw [ih hshut, hresult, reply_of_shutting_down h, hnext, hand_out_waiting,
        List.countP_cons_of_pos hasks]
      cases queue.waiting with
      | nil => simp [TaskResult.answer?, List.replicate_succ]
      | cons key rest => simp [TaskResult.answer?]
    · rw [ih hidle.shutting_down, hidle.unanswered, hidle.waiting,
        List.countP_cons_of_neg (by simp [hasks])]
      rfl

/-- A key is handed out only if it waits. -/
theorem mem_answers_of_shutting_down (h : queue.shuttingDown = true) {steps : List QueueStep}
    {key : String} (hmem : some key ∈ queue.answers steps) : key ∈ queue.waiting := by
  rw [answers_of_shutting_down h, List.mem_append] at hmem
  rcases hmem with hmem | hmem
  · obtain ⟨other, hother, heq⟩ := List.mem_map.1 hmem
    exact Option.some.inj heq ▸ List.mem_of_mem_take hother
  · exact nomatch List.eq_of_mem_replicate hmem

/-- A key that is held stays so until it is given back. -/
theorem mem_in_flight_after (h : queue.shuttingDown = true) {steps : List QueueStep} {key : String}
    (hheld : key ∈ queue.inFlight) (hkept : ∀ step ∈ steps, step.releasedKey? ≠ some key) :
    key ∈ (queue.after steps).inFlight := by
  induction steps generalizing queue with
  | nil => exact hheld
  | cons step steps ih =>
    obtain ⟨hstep, hsteps⟩ := List.forall_mem_cons.1 hkept
    obtain ⟨-, -, hnext, -⟩ | ⟨-, hidle⟩ := next_cases h step
    · have hshut : (queue.next step).shuttingDown = true := by
        rw [hnext, hand_out_shutting_down, h]
      refine ih hshut ?_ hsteps
      rw [hnext]
      exact mem_in_flight_hand_out hheld
    · exact ih hidle.shutting_down ((hidle.mem_in_flight key).2 ⟨hheld, hstep⟩) hsteps

/-- One who waits until no key is held comes back only then. -/
theorem result_drainer (queue : WorkQueue) (name : String) :
    queue.result? (.resume (.drainer name)) =
      if queue.inFlight = [] then some .drained else none := by
  show (if queue.drained then _ else _) = _
  simp [drained]

/-- What a shutdown promises, whatever happens after it. The steps `before` lead to any later
moment, and the steps `later` go on from there. -/
structure ClosesDown (queue : WorkQueue) : Prop where
  /-- Everybody who asks comes back: the first with the keys that waited at the shutdown, in their
  order, and the others with nothing. -/
  answered : ∀ steps, queue.shutDown.answers steps =
    (queue.waiting.take (steps.countP (·.asks))).map some ++
      List.replicate (steps.countP (·.asks) - queue.waiting.length) none
  /-- Each of these keys waited once. -/
  once : queue.waiting.Nodup
  /-- A key that was held at the shutdown, or at any moment after it, is not handed out again. -/
  not_redelivered : ∀ before later key, key ∈ (queue.shutDown.after before).inFlight →
    some key ∉ (queue.shutDown.after before).answers later
  /-- One who waits for the end of the work comes back exactly if no key is held at that moment. -/
  drained_iff : ∀ before name,
    (queue.shutDown.after before).result? (.resume (.drainer name)) = some .drained ↔
      (queue.shutDown.after before).inFlight = []
  /-- If one comes back who waits for the end of the work, every key that was held before was given
  back. -/
  released : ∀ before later key name, key ∈ (queue.shutDown.after before).inFlight →
    (queue.shutDown.after (before ++ later)).result? (.resume (.drainer name)) = some .drained →
    ∃ step ∈ later, step.releasedKey? = some key

/-- A queue in step keeps what a shutdown promises. -/
theorem SingleFlight.closes_down (h : queue.SingleFlight) : queue.ClosesDown := by
  have hclosing := Closing.of_single_flight h
  refine ⟨answers_of_shutting_down rfl, h.waiting_nodup, fun before later key hheld hmem => ?_,
    fun before name => ?_, fun before later key name hheld hdrained => ?_⟩
  · have hlater := hclosing.after before
    exact hlater.waiting_idle key (mem_answers_of_shutting_down hlater.shutting_down hmem) hheld
  · rw [result_drainer]
    simp
  · by_contra hkept
    have hstill : key ∈ ((queue.shutDown.after before).after later).inFlight :=
      mem_in_flight_after (hclosing.after before).shutting_down hheld
        fun step hstep hreleased => hkept ⟨step, hstep, hreleased⟩
    rw [after_append, result_drainer, if_neg (List.ne_nil_of_mem hstill)] at hdrained
    cases hdrained

end WorkQueue

/-! ## The tasks of a queue -/

namespace TaskQueue

/-- A task that looks at the queue is a step of it. -/
theorem settle_task (results : List (String × TaskResult)) (state : TaskQueue)
    (task : WaitingTask) :
    (settleTask (results, state) task).1.map (·.2) =
        results.map (·.2) ++ (state.queue.result? (.resume task)).toList ∧
      (settleTask (results, state) task).2.queue = state.queue.next (.resume task) := by
  cases task with
  | taker name =>
    unfold settleTask WorkQueue.next WorkQueue.result? WorkQueue.reply? WorkQueue.handOut
    cases htake : state.queue.take? with
    | some taken => simp [htake]
    | none => cases hshut : state.queue.shuttingDown <;> simp [htake, hshut]
  | drainer name =>
    unfold settleTask WorkQueue.next WorkQueue.result?
    cases hdrained : state.queue.drained <;> simp [hdrained]

/-- The tasks of a queue look at it one after the other, oldest first. -/
theorem settle_eq (state : TaskQueue) :
    state.settle.1.map (·.2) = state.queue.results (state.tasks.map .resume) ∧
      state.settle.2.queue = state.queue.after (state.tasks.map .resume) := by
  suffices h : ∀ (tasks : List WaitingTask) (results : List (String × TaskResult))
      (state : TaskQueue),
      (tasks.foldl settleTask (results, state)).1.map (·.2) =
          results.map (·.2) ++ state.queue.results (tasks.map .resume) ∧
        (tasks.foldl settleTask (results, state)).2.queue =
          state.queue.after (tasks.map .resume) from
    h state.tasks [] { state with tasks := [] }
  intro tasks
  induction tasks with
  | nil => exact fun results state => ⟨(List.append_nil _).symm, rfl⟩
  | cons task tasks ih =>
    intro results state
    obtain ⟨hresults, hqueue⟩ := settle_task results state task
    obtain ⟨hlater, hafter⟩ := ih (settleTask (results, state) task).1
      (settleTask (results, state) task).2
    rw [hresults, hqueue, List.append_assoc] at hlater
    rw [hqueue] at hafter
    exact ⟨hlater, hafter⟩

end TaskQueue

namespace StaffedQueue

/-- An action that may happen does to the queue what it does at any time. -/
theorem act_perform {state next : StaffedQueue} {action : QueueAction}
    (hact : state.act? action = some next) : next.queue = state.queue.perform action := by
  cases action with
  | add | addAfter | addRateLimited | forget | elapse | shutDown =>
    cases hact
    rfl
  | fire entry =>
    obtain ⟨-, hnext⟩ := Option.ite_none_right_eq_some.1 hact
    rw [← Option.some.inj hnext]
    rfl
  | release worker key =>
    obtain ⟨-, hnext⟩ := Option.ite_none_right_eq_some.1 hact
    rw [← Option.some.inj hnext]
    rfl
  | take worker =>
    unfold act? at hact
    unfold WorkQueue.perform WorkQueue.handOut
    cases htake : state.queue.take? with
    | some taken =>
      rw [htake] at hact
      rw [← Option.some.inj hact]
    | none =>
      rw [htake] at hact
      rw [← Option.some.inj hact]

/-- Whenever a queue is shut down, and whatever is added, delayed, given back and asked for after
that: the keys that wait are still handed out, once each and in their order, then nothing is; no
key that is held is handed out again; and the wait for the end of the work is over exactly when no
key is held. -/
theorem run_closes_down {backoff : Backoff} {events : List QueueEvent} {state : StaffedQueue}
    (h : Run backoff events state) : state.queue.ClosesDown :=
  h.sound.single_flight.closes_down

/-- A queue in which a worker holds a key that was added again, other keys wait, and one more will
be added later. -/
def laden : StaffedQueue :=
  ⟨{ WorkQueue.new .standard with
      waiting := ["b", "c"]
      dirty := ["c", "b", "a"]
      inFlight := ["a"]
      delayed := [⟨"d", 5⟩] }, [(0, "a")]⟩

/-- The run to a queue with keys in all places. -/
theorem run_laden :
    Run .standard [.added "a", .taken "a", .added "a", .added "b", .added "c",
      .postponed ⟨"d", 5⟩ ⟨5, by decide⟩] laden :=
  .step (.addAfter "d" ⟨5, by decide⟩) (.step (.add "c") run_readded rfl) rfl

/-- What happens after the shutdown: the delayed key falls due, a key is added, and two workers take
what waits and give back what they hold. -/
def windingDown : List QueueStep := [
  .act (.elapse 5), .act (.fire ⟨"d", 5⟩), .act (.add "e"), .act (.take 1),
  .act (.release 0 "a"), .resume (.drainer "main"), .resume (.taker "first"),
  .act (.release 1 "b"), .act (.release 0 "c"), .act (.take 0)]

/-- Two keys still come out of the queue, the key that a worker held does not come out again, and
the wait for the end of the work is over when both workers are done. -/
theorem run_closes_down_laden :
    (∃ events, Run .standard events laden) ∧
      laden.queue.shutDown.answers windingDown = [some "b", some "c", none] ∧
      (∀ steps, some "a" ∉ laden.queue.shutDown.answers steps) ∧
      (laden.queue.shutDown.after windingDown).result? (.resume (.drainer "main")) =
        some .drained :=
  have hcloses := run_closes_down run_laden
  ⟨⟨_, run_laden⟩, hcloses.answered windingDown,
    fun steps => hcloses.not_redelivered [] steps "a" (by decide),
    (hcloses.drained_iff windingDown "main").2 (by decide)⟩

end StaffedQueue

end FunctionOperator
