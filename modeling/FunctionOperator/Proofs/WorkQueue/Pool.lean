import FunctionOperator.Proofs.Metrics
import FunctionOperator.Proofs.WorkQueue.Delivery
import FunctionOperator.WorkQueue.Worker
import Mathlib.Logic.Function.Basic

/-!
# Runs of a pool of workers

Any number of workers that share a queue, each in the middle of its own work on a key. Read
`StaffedPool.Step` first: a worker takes a key, settles its failures with the result of the sync,
gives it back and counts the sync, and between any two of these steps the other workers, the
passing of time and whoever adds keys may come in. `Run.process` shows that the pool does nothing
else: what `WorkerPool.processNext?` does is a run of these steps.

To the queue a run of the pool is one of its own runs, which `Run.staff` says. So what is known of
every run of a queue is known of the queue of every pool.
-/

namespace FunctionOperator

/-- What only others than workers do to a queue: keys are added, and time passes. -/
def QueueAction.isOutside : QueueAction → Bool
  | .add _ | .addAfter .. | .elapse _ | .fire _ => true
  | _ => false

/-- What is seen of a queue without its workers and its shutdown. -/
def QueueEvent.isOutside : QueueEvent → Bool
  | .added _ | .postponed .. | .matured _ | .elapsed _ => true
  | _ => false

/-- What a worker that still holds a key does to the queue when its sync has ended. -/
def settlement (key : String) : SyncLabel → QueueAction
  | .retry => .addRateLimited key
  | _ => .forget key

/-- Where a worker is in its work. -/
inductive WorkerPhase where
  /-- It has no key. -/
  | idle
  /-- It syncs a key. -/
  | syncing (key : String)
  /-- The sync has ended, and the key's failures are counted or forgotten. -/
  | settled (key : String) (label : SyncLabel)
  /-- The key is given back, and the sync is not counted yet. -/
  | released (key : String) (label : SyncLabel)

/-- The key that a worker holds. -/
def WorkerPhase.held? : WorkerPhase → Option String
  | .syncing key | .settled key _ => some key
  | _ => none

/-- What a bystander sees of a pool. -/
inductive PoolEvent where
  /-- Something that is seen of the queue alone. -/
  | queue (event : QueueEvent)
  /-- A worker gets a key. -/
  | taken (worker : Nat) (key : String)
  /-- The sync of a key has ended. -/
  | settled (worker : Nat) (key : String) (label : SyncLabel)
  /-- A worker gives back a key. -/
  | released (worker : Nat) (key : String)
  /-- A worker counts its sync. -/
  | counted (worker : Nat) (label : SyncLabel)
  /-- Another control loop counts a sync. -/
  | foreign (controller : String) (label : SyncLabel)
deriving DecidableEq

/-- What an event is to the queue. -/
def PoolEvent.queueEvent? : PoolEvent → Option QueueEvent
  | .queue event => some event
  | .taken _ key => some (.taken key)
  | .released _ key => some (.released key)
  | _ => none

/-- A queue with the keys that workers hold, the counters, and where each worker is. -/
structure StaffedPool where
  /-- The queue and the keys that are held. -/
  staff : StaffedQueue
  /-- The counters, which other control loops share. -/
  metrics : Metrics
  /-- The place of each worker in its work. -/
  phase : Nat → WorkerPhase

namespace StaffedPool

/-- The pool before anything has happened. -/
def new (backoff : Backoff) : StaffedPool := ⟨.new backoff, {}, fun _ => .idle⟩

/-- The pool of a control loop. -/
def pool (kind : String) (state : StaffedPool) : WorkerPool :=
  ⟨kind, state.staff.queue, state.metrics⟩

/-- Lets a worker go on, with what this does to the queue. -/
def move (state : StaffedPool) (staff : StaffedQueue) (worker : Nat) (phase : WorkerPhase) :
    StaffedPool :=
  { state with staff := staff, phase := Function.update state.phase worker phase }

/-- A worker is in the phase that it was moved to. -/
theorem move_phase (state : StaffedPool) (staff : StaffedQueue) (worker : Nat)
    (phase : WorkerPhase) : (state.move staff worker phase).phase worker = phase :=
  Function.update_self ..

/-- What may happen to the pool of a control loop, with what is seen of it. -/
inductive Step (kind : String) (state : StaffedPool) : List PoolEvent → StaffedPool → Prop where
  /-- Somebody adds a key, at once or with a delay, or time passes. -/
  | outside (action : QueueAction) {staff : StaffedQueue} (houtside : action.isOutside)
      (hact : state.staff.act? action = some staff) :
      Step kind state ((state.staff.observe action).map .queue) { state with staff := staff }
  /-- A worker takes a key. -/
  | take (worker : Nat) {key : String} {queue : WorkQueue} (hidle : state.phase worker = .idle)
      (htake : state.staff.queue.take? = some (key, queue)) :
      Step kind state [.taken worker key]
        (state.move ⟨queue, (worker, key) :: state.staff.held⟩ worker (.syncing key))
  /-- The sync of a worker ends. -/
  | settle (worker : Nat) {key : String} {staff : StaffedQueue} (result : SyncResult)
      (hphase : state.phase worker = .syncing key)
      (hact : state.staff.act? (settlement key (WorkerPool.label result)) = some staff) :
      Step kind state
        (.settled worker key (WorkerPool.label result) ::
          (state.staff.observe (settlement key (WorkerPool.label result))).map .queue)
        (state.move staff worker (.settled key (WorkerPool.label result)))
  /-- A worker gives back its key. -/
  | release (worker : Nat) {key : String} {label : SyncLabel} {staff : StaffedQueue}
      (hphase : state.phase worker = .settled key label)
      (hact : state.staff.act? (.release worker key) = some staff) :
      Step kind state [.released worker key] (state.move staff worker (.released key label))
  /-- A worker counts its sync, and shows how many keys wait. -/
  | count (worker : Nat) {key : String} {label : SyncLabel} (seconds : Binary64)
      (hphase : state.phase worker = .released key label) :
      Step kind state [.counted worker label]
        { state.move state.staff worker .idle with
          metrics := (state.metrics.recordSync kind label.name seconds).setQueueDepth kind
            state.staff.queue.waiting.length }
  /-- Another control loop counts a sync, and shows how many keys wait there. -/
  | foreign (controller : String) (label : SyncLabel) (seconds : Binary64) (depth : Nat)
      (hcontroller : controller ∈ controllerKinds) :
      Step kind state [.foreign controller label]
        { state with
          metrics := (state.metrics.recordSync controller label.name seconds).setQueueDepth
            controller depth }

/-- The states that a pool can reach, each with all that was seen before. -/
inductive Run (kind : String) (backoff : Backoff) : List PoolEvent → StaffedPool → Prop where
  /-- Nothing has happened. -/
  | start : Run kind backoff [] (new backoff)
  /-- One more step. -/
  | step {events more state next} (hrun : Run kind backoff events state)
      (hstep : Step kind state more next) : Run kind backoff (events ++ more) next

variable {kind : String} {backoff : Backoff} {events more : List PoolEvent}
  {state next : StaffedPool}

/-! ## What others see of the queue -/

/-- Others are seen neither to take keys nor to shut the queue down. -/
theorem outside_of_observe {staff : StaffedQueue} {action : QueueAction}
    (houtside : action.isOutside ∨ ∃ key label, action = settlement key label) {event : QueueEvent}
    (hevent : event ∈ staff.observe action) : event.isOutside := by
  have hafter (queue : WorkQueue) (key : String) (delay : Duration) :
      ∀ event ∈ StaffedQueue.observeAfter queue key delay, event.isOutside := by
    unfold StaffedQueue.observeAfter
    split_ifs <;> simp [QueueEvent.isOutside]
  cases action with
  | add | elapse | fire =>
    cases List.mem_singleton.1 hevent
    rfl
  | addAfter | addRateLimited => exact hafter _ _ _ event hevent
  | forget => cases hevent
  | take | release | shutDown =>
    obtain h | ⟨key, label, h⟩ := houtside
    · cases h
    · cases label <;> cases h

/-- What is seen of the queue alone in one step. -/
theorem Step.outside_event (h : Step kind state more next) {event : QueueEvent}
    (hevent : .queue event ∈ more) : event.isOutside := by
  cases h with
  | outside action houtside hact =>
    obtain ⟨seen, hseen, heq⟩ := List.mem_map.1 hevent
    cases heq
    exact outside_of_observe (.inl houtside) hseen
  | settle worker result hphase hact =>
    obtain ⟨seen, hseen, heq⟩ := List.mem_map.1 (List.mem_of_ne_of_mem (by simp) hevent)
    cases heq
    exact outside_of_observe (.inr ⟨_, _, rfl⟩) hseen
  | take | release | count | foreign => simp at hevent

/-- What is seen of the queue alone in a run. -/
theorem Run.outside_event (h : Run kind backoff events state) {event : QueueEvent}
    (hevent : .queue event ∈ events) : event.isOutside := by
  induction h with
  | start => cases hevent
  | step hrun hstep ih =>
    rcases List.mem_append.1 hevent with hevent | hevent
    · exact ih hevent
    · exact hstep.outside_event hevent

/-! ## The run of the queue -/

/-- What is seen of the queue alone is seen by the queue as it is. -/
@[simp] theorem filter_map_queue (seen : List QueueEvent) :
    (seen.map PoolEvent.queue).filterMap PoolEvent.queueEvent? = seen := by
  rw [List.filterMap_map]
  exact List.filterMap_some

/-- To the queue a step is one of its own actions, or none. -/
theorem Step.staff (h : Step kind state more next) :
    (next.staff = state.staff ∧ more.filterMap PoolEvent.queueEvent? = []) ∨
    ∃ action, state.staff.act? action = some next.staff ∧
      more.filterMap PoolEvent.queueEvent? = state.staff.observe action := by
  cases h with
  | outside action houtside hact => exact .inr ⟨action, hact, filter_map_queue _⟩
  | take worker hidle htake =>
    refine .inr ⟨.take worker, ?_, ?_⟩
    · simp [StaffedQueue.act?, htake, move]
    · simp [StaffedQueue.observe, htake, PoolEvent.queueEvent?]
  | settle worker result hphase hact => exact .inr ⟨_, hact, filter_map_queue _⟩
  | release worker hphase hact => exact .inr ⟨_, hact, rfl⟩
  | count | foreign => exact .inl ⟨rfl, rfl⟩

/-- To the queue a run of the pool is one of its own runs. -/
theorem Run.staff (h : Run kind backoff events state) :
    StaffedQueue.Run backoff (events.filterMap PoolEvent.queueEvent?) state.staff := by
  induction h with
  | start => exact .start
  | step hrun hstep ih =>
    rw [List.filterMap_append]
    obtain ⟨hsame, hnothing⟩ | ⟨action, hact, hseen⟩ := hstep.staff
    · rwa [hsame, hnothing, List.append_nil]
    · rw [hseen]
      exact .step action ih hact

/-- Nobody is seen to shut the queue down. -/
theorem Run.closed_not_mem (h : Run kind backoff events state) :
    .closed ∉ events.filterMap PoolEvent.queueEvent? := by
  intro hclosed
  obtain ⟨event, hevent, hseen⟩ := List.mem_filterMap.1 hclosed
  cases event with
  | queue event =>
    cases hseen
    cases h.outside_event hevent
  | _ => cases hseen

/-- The queue accepts keys. -/
theorem Run.accepts (h : Run kind backoff events state) :
    state.staff.queue.shuttingDown = false :=
  Bool.eq_false_iff.2 fun hshut => h.closed_not_mem (h.staff.shutting_down_iff.1 hshut)

/-! ## What workers hold -/

/-- Others leave alone what workers hold and how often keys have failed. -/
theorem outside_frame {staff moved : StaffedQueue} {action : QueueAction}
    (houtside : action.isOutside) (hact : staff.act? action = some moved) :
    moved.held = staff.held ∧ moved.queue.limiter = staff.queue.limiter := by
  cases action with
  | add key =>
    cases hact
    exact ⟨rfl, WorkQueue.add_limiter _ _⟩
  | addAfter key delay =>
    cases hact
    exact ⟨rfl, WorkQueue.add_after_limiter _ _ _⟩
  | elapse =>
    cases hact
    exact ⟨rfl, rfl⟩
  | fire entry =>
    simp only [StaffedQueue.act?, Option.ite_none_right_eq_some, Option.some.injEq] at hact
    obtain ⟨-, rfl⟩ := hact
    exact ⟨rfl, WorkQueue.add_limiter _ _⟩
  | addRateLimited | forget | take | release | shutDown => cases houtside

/-- A worker that settles a key still holds it. -/
theorem settlement_held {staff moved : StaffedQueue} {key : String} {label : SyncLabel}
    (hact : staff.act? (settlement key label) = some moved) : moved.held = staff.held := by
  cases label <;> cases hact <;> rfl

/-- A step keeps what is held in accord with the phases of the workers. -/
theorem Step.mem_held (h : Step kind state more next) (hsound : state.staff.Sound)
    (hheld : ∀ worker key,
      (worker, key) ∈ state.staff.held ↔ (state.phase worker).held? = some key)
    (worker : Nat) (key : String) :
    (worker, key) ∈ next.staff.held ↔ (next.phase worker).held? = some key := by
  cases h with
  | outside action houtside hact =>
    rw [(outside_frame houtside hact).1]
    exact hheld worker key
  | take taker hidle htake =>
    have hnone := hheld worker key
    by_cases heq : worker = taker
    · subst heq
      simp [move, hidle, WorkerPhase.held?, eq_comm] at hnone ⊢
      exact fun h => absurd h hnone
    · simpa [move, heq] using hnone
  | @settle settler settled staff result hphase hact =>
    rw [show (move _ staff settler _).staff.held = state.staff.held from settlement_held hact,
      hheld]
    by_cases heq : worker = settler
    · simp [move, heq, hphase, WorkerPhase.held?]
    · simp [move, heq]
  | release releaser hphase hact =>
    simp only [StaffedQueue.act?, Option.ite_none_right_eq_some, Option.some.injEq] at hact
    obtain ⟨-, rfl⟩ := hact
    have hnodup : state.staff.held.Nodup := .of_map _ hsound.held_nodup
    simp only [move, hnodup.mem_erase_iff, hheld]
    by_cases heq : worker = releaser
    · simp [heq, hphase, WorkerPhase.held?, eq_comm]
    · simp [heq]
  | count counter seconds hphase =>
    show (worker, key) ∈ state.staff.held ↔ _
    rw [hheld]
    by_cases heq : worker = counter
    · simp [move, heq, hphase, WorkerPhase.held?]
    · simp [move, heq]
  | foreign => exact hheld worker key

/-- A worker holds the key that its phase tells. -/
theorem Run.mem_held (h : Run kind backoff events state) (worker : Nat) (key : String) :
    (worker, key) ∈ state.staff.held ↔ (state.phase worker).held? = some key := by
  induction h generalizing worker key with
  | start => simp [new, StaffedQueue.new, WorkerPhase.held?]
  | step hrun hstep ih => exact hstep.mem_held hrun.staff.sound ih worker key

/-! ## The work of the pool -/

/-- A key can always be settled. -/
theorem settlement_acts (staff : StaffedQueue) (key : String) (label : SyncLabel) :
    ∃ moved, staff.act? (settlement key label) = some moved := by
  cases label <;> exact ⟨_, rfl⟩

/-- A worker can settle its key with any result. -/
theorem settles {worker : Nat} {key : String} (hphase : state.phase worker = .syncing key)
    (result : SyncResult) :
    ∃ more next, Step kind state (.settled worker key (WorkerPool.label result) :: more) next := by
  obtain ⟨staff, hact⟩ := settlement_acts state.staff key (WorkerPool.label result)
  exact ⟨_, _, .settle worker result hphase hact⟩

/-- A worker can give back its key. -/
theorem Run.releases (h : Run kind backoff events state) {worker : Nat} {key : String}
    {label : SyncLabel} (hphase : state.phase worker = .settled key label) :
    Step kind state [.released worker key]
      (state.move ⟨state.staff.queue.release key, state.staff.held.erase (worker, key)⟩ worker
        (.released key label)) := by
  refine .release worker hphase (if_pos ((h.mem_held worker key).2 ?_))
  rw [hphase]
  rfl

/-- The end of a sync settles the key, gives it back and counts the sync. -/
theorem finish_eq {staff moved : StaffedQueue} {key : String} {result : SyncResult}
    (hact : staff.act? (settlement key (WorkerPool.label result)) = some moved)
    (metrics : Metrics) :
    WorkerPool.finish ⟨kind, staff.queue, metrics⟩ key result = ⟨kind, moved.queue.release key,
      (metrics.recordSync kind (WorkerPool.label result).name .zero).setQueueDepth kind
        (moved.queue.release key).waiting.length⟩ := by
  rw [WorkerPool.finish]
  generalize WorkerPool.label result = label at hact ⊢
  cases label <;> cases hact <;> rfl

/-- What the pool does with a key is the work of one worker in four steps. -/
theorem Run.process (h : Run kind backoff events state) {worker : Nat}
    (hidle : state.phase worker = .idle) {γ : Type} {sync : String → γ → SyncResult × γ}
    {view seen : γ} {pool : WorkerPool}
    (hprocess : (state.pool kind).processNext? sync view = some (pool, seen)) :
    ∃ more next, Run kind backoff (events ++ more) next ∧ next.pool kind = pool := by
  obtain ⟨⟨key, queue⟩, htake, hrest⟩ := Option.bind_eq_some_iff.1 hprocess
  cases hrest
  have htaken := Run.step h (.take worker hidle htake)
  obtain ⟨staff, hact⟩ := settlement_acts ⟨queue, (worker, key) :: state.staff.held⟩ key
    (WorkerPool.label (sync key view).1)
  have hsettled := Run.step htaken (.settle worker (sync key view).1 (move_phase ..) hact)
  have hreleased := Run.step hsettled (hsettled.releases (move_phase ..))
  have hcounted := Run.step hreleased (.count worker .zero (move_phase ..))
  refine ⟨_, _, by simpa only [List.append_assoc] using hcounted, ?_⟩
  exact (finish_eq hact state.metrics).symm

end StaffedPool

end FunctionOperator
