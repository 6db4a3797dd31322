import FunctionOperator.Proofs.Backoff
import FunctionOperator.Proofs.WorkQueue.Pool
import Mathlib.Data.List.DropRight

/-!
# Failing keys come back

The account of a pool's work. Read `Worked` and `Retried` first: after every run of any number of
workers, in any order with other additions and the passing of time, each worker has worked through
whole cycles of taking, settling, giving back and counting; the limiter knows how often each key has
failed in a row; and every failure brings its key back after the delay for that number. `Tallied`
says that the counters agree with the syncs.

A delay of more than `WorkQueue.longestDelay` is cut short: `run_early` is a run in which a key is
handed out again years before its backoff is over.
-/

namespace FunctionOperator

namespace PoolEvent

/-- The result of a sync of a key, where the sync ends. -/
def outcome? (key : String) : PoolEvent → Option SyncLabel
  | .settled _ other label => if other = key then some label else none
  | _ => none

/-- The results of the syncs of a key, in their order. -/
def outcomes (events : List PoolEvent) (key : String) : List SyncLabel :=
  events.filterMap (outcome? key)

/-- How often a key has failed since it last succeeded or failed for good. -/
def streak (events : List PoolEvent) (key : String) : Nat :=
  ((outcomes events key).rtakeWhile (· = .retry)).length

/-- The delay that a key has to wait for when it fails after some events. -/
def delayAfter (backoff : Backoff) (events : List PoolEvent) (key : String) : Duration :=
  backoff.delayFor (min (streak events key) RateLimiter.countLimit)

/-- The time that has passed after some events. -/
def clock (events : List PoolEvent) : Nat := QueueEvent.clock (events.filterMap queueEvent?)

/-- Whether an event is a step of a worker. -/
def isOf (worker : Nat) : PoolEvent → Bool
  | .taken other _ | .settled other _ _ | .released other _ | .counted other _ => other == worker
  | _ => false

/-- The steps of a worker from taking a key to counting the sync. -/
def cycle (worker : Nat) (work : String × SyncLabel) : List PoolEvent :=
  [.taken worker work.1, .settled worker work.1 work.2, .released worker work.1,
    .counted worker work.2]

/-- The result of a sync that a control loop counts. -/
def completion? (kind controller : String) : PoolEvent → Option SyncLabel
  | .counted _ label => if kind = controller then some label else none
  | .foreign other label => if other = controller then some label else none
  | _ => none

/-- The results of the syncs that a control loop has counted. -/
def completions (kind : String) (events : List PoolEvent) (controller : String) : List SyncLabel :=
  events.filterMap (completion? kind controller)

end PoolEvent

/-- The steps that a worker has done since it took its key. -/
def WorkerPhase.begun (worker : Nat) : WorkerPhase → List PoolEvent
  | .idle => []
  | .syncing key => [.taken worker key]
  | .settled key label => [.taken worker key, .settled worker key label]
  | .released key label => [.taken worker key, .settled worker key label, .released worker key]

/-- The time until which a key has to wait that failed at a time. -/
def backAt (time : Nat) (delay : Duration) : Nat := time + min delay.nanos WorkQueue.longestDelay

/-- What is seen of the queue when a key has failed at a time. -/
def comeback (key : String) (time : Nat) (delay : Duration) : QueueEvent :=
  if delay.nanos = 0 then .added key else .postponed ⟨key, backAt time delay⟩ delay

namespace StaffedPool

open PoolEvent

/-- What the workers of a pool have done with the keys that they took. -/
structure Worked (kind : String) (events : List PoolEvent) (state : StaffedPool) : Prop where
  /-- Each worker has settled, given back and counted every key that it took, each once and in this
  order, but for the key that it works on. -/
  cycles : ∀ worker, ∃ done : List (String × SyncLabel), events.filter (isOf worker) =
    done.flatMap (cycle worker) ++ (state.phase worker).begun worker
  /-- What a worker holds is the key that it works on. -/
  held : ∀ worker key, (worker, key) ∈ state.staff.held ↔
    (state.phase worker).held? = some key
  /-- No two workers hold the same key. -/
  held_once : (state.staff.held.map (·.2)).Nodup
  /-- Whatever its sync results in, a worker can settle its key. -/
  settles : ∀ worker key (result : SyncResult), state.phase worker = .syncing key →
    ∃ more next, Step kind state (.settled worker key (WorkerPool.label result) :: more) next
  /-- A worker that has settled its key can give it back. -/
  releases : ∀ worker key label, state.phase worker = .settled key label →
    ∃ next, Step kind state [.released worker key] next

/-- What became of the keys whose syncs failed. -/
structure Retried (backoff : Backoff) (events : List PoolEvent) (state : StaffedPool) : Prop where
  /-- The limiter knows how often each key has failed in a row, as far as it can count. -/
  requeues : ∀ key,
    state.staff.queue.requeues key = min (streak events key) RateLimiter.countLimit
  /-- A failure brings its key back after the delay for the failures before it. -/
  returns : ∀ before worker key after, events = before ++ .settled worker key .retry :: after →
    ∃ rest, after = .queue (comeback key (clock before) (delayAfter backoff before key)) :: rest
  /-- The first failure after any other result brings the key back after the first delay. -/
  restarts : ∀ first other key label middle worker after,
    events = first ++ .settled other key label :: middle ++ .settled worker key .retry :: after →
    label ≠ .retry → outcomes middle key = [] →
    ∃ rest, after = .queue (comeback key (clock (first ++ .settled other key label :: middle))
      (backoff.delayFor 0)) :: rest
  /-- A key that has failed was handed out since, or waits, or is held and dirty, or its backoff is
  not over. -/
  kept : ∀ before worker key after, events = before ++ .settled worker key .retry :: after →
    (∃ other, .taken other key ∈ after) ∨ key ∈ state.staff.queue.waiting ∨
      (key ∈ state.staff.queue.inFlight ∧ key ∈ state.staff.queue.dirty) ∨
      ((delayAfter backoff before key).nanos ≠ 0 ∧
        ⟨key, backAt (clock before) (delayAfter backoff before key)⟩ ∈ state.staff.queue.delayed)
  /-- Each delayed key is added once, and is kept until then. -/
  once : (events.filterMap fun event => event.queueEvent?.bind QueueEvent.postponedEntry?).Perm
    ((events.filterMap fun event => event.queueEvent?.bind QueueEvent.maturedEntry?) ++
      state.staff.queue.delayed)
  /-- A delayed key is not added before it is due. -/
  not_early : ∀ before entry after, events = before ++ .queue (.matured entry) :: after →
    entry.due ≤ clock before

/-- The counters of a control loop tell how its syncs ended. -/
structure Tallied (metrics : Metrics) (controller : String) (labels : List SyncLabel) : Prop where
  /-- Each result is counted. -/
  each : ∀ label : SyncLabel, metrics.reconcileCount controller label.name = labels.count label
  /-- The results add up to the syncs. -/
  total : metrics.reconcileCount controller SyncLabel.success.name +
    metrics.reconcileCount controller SyncLabel.retry.name +
    metrics.reconcileCount controller SyncLabel.dropped.name = labels.length
  /-- The retries are the failures that will be tried again. -/
  retries : metrics.retryCount controller =
    metrics.reconcileCount controller SyncLabel.retry.name

variable {kind : String} {backoff : Backoff} {events more : List PoolEvent}
  {state next : StaffedPool}

/-! ## Cycles of work -/

/-- A step of a worker continues its work on a key, or ends it. -/
theorem Step.begun (h : Step kind state more next) (worker : Nat) :
    (next.phase worker).begun worker =
        (state.phase worker).begun worker ++ more.filter (isOf worker) ∨
    ∃ work, (state.phase worker).begun worker ++ more.filter (isOf worker) = cycle worker work ∧
      (next.phase worker).begun worker = [] := by
  cases h with
  | outside action houtside hact => exact .inl (by simp [isOf])
  | take taker hidle htake =>
    refine .inl ?_
    by_cases heq : worker = taker
    · simp [move, heq, hidle, WorkerPhase.begun, isOf]
    · simp [move, heq, Ne.symm heq, isOf]
  | settle settler result hphase hact =>
    refine .inl ?_
    by_cases heq : worker = settler
    · subst heq
      simp [move, hphase, WorkerPhase.begun, isOf]
    · simp [move, heq, Ne.symm heq, isOf]
  | release releaser hphase hact =>
    refine .inl ?_
    by_cases heq : worker = releaser
    · simp [move, heq, hphase, WorkerPhase.begun, isOf]
    · simp [move, heq, Ne.symm heq, isOf]
  | @count counter key label seconds hphase =>
    by_cases heq : worker = counter
    · exact .inr ⟨(key, label), by simp [heq, hphase, WorkerPhase.begun, isOf, cycle],
        by simp [move, heq, WorkerPhase.begun]⟩
    · exact .inl (by simp [move, heq, Ne.symm heq, isOf])
  | foreign => exact .inl (by simp [isOf])

/-- The steps of a worker are whole cycles, but for its work on the key that it has. -/
theorem Run.cycles (h : Run kind backoff events state) (worker : Nat) :
    ∃ done : List (String × SyncLabel), events.filter (isOf worker) =
      done.flatMap (cycle worker) ++ (state.phase worker).begun worker := by
  induction h with
  | start => exact ⟨[], rfl⟩
  | step hrun hstep ih =>
    obtain ⟨done, hdone⟩ := ih
    rw [List.filter_append, hdone]
    obtain hmore | ⟨work, hwork, hnext⟩ := hstep.begun worker
    · exact ⟨done, by rw [hmore, List.append_assoc]⟩
    · exact ⟨done ++ [work], by simp [hwork, hnext]⟩

/-- The workers of a pool work through whole cycles. -/
theorem Run.worked (h : Run kind backoff events state) : Worked kind events state where
  cycles := h.cycles
  held := h.mem_held
  held_once := h.staff.sound.held_nodup
  settles _ _ result hphase := StaffedPool.settles hphase result
  releases _ _ _ hphase := ⟨_, h.releases hphase⟩

/-! ## Failures in a row -/

/-- Results add up. -/
theorem outcomes_append (events later : List PoolEvent) (key : String) :
    outcomes (events ++ later) key = outcomes events key ++ outcomes later key :=
  List.filterMap_append

/-- What is seen of the queue alone has no result. -/
theorem outcomes_queue (seen : List QueueEvent) (key : String) :
    outcomes (seen.map PoolEvent.queue) key = [] := by
  simp [outcomes, List.filterMap_eq_nil_iff, outcome?]

/-- A key that failed has failed once more in a row, and any other result ends the row. -/
theorem streak_append {later : List PoolEvent} {key : String} {label : SyncLabel}
    (h : outcomes later key = [label]) :
    streak (events ++ later) key = if label = .retry then streak events key + 1 else 0 := by
  rw [streak, outcomes_append, h, List.rtakeWhile_concat]
  by_cases hretry : label = .retry <;> simp [hretry, streak]

/-- Events without a result leave the row of failures. -/
theorem streak_append_of_nil {later : List PoolEvent} {key : String}
    (h : outcomes later key = []) : streak (events ++ later) key = streak events key := by
  rw [streak, outcomes_append, h, List.append_nil, streak]

/-- The limiter records or forgets the failures of the key that is settled, and nothing else. -/
theorem Step.limiter (h : Step kind state more next) :
    (next.staff.queue.limiter = state.staff.queue.limiter ∧ ∀ key, outcomes more key = []) ∨
    ∃ key label, next.staff.queue.limiter = (if label = SyncLabel.retry then
        (state.staff.queue.limiter.record key).2 else state.staff.queue.limiter.forget key) ∧
      ∀ other, outcomes more other = if key = other then [label] else [] := by
  cases h with
  | outside action houtside hact =>
    exact .inl ⟨(outside_frame houtside hact).2, outcomes_queue _⟩
  | take taker hidle htake =>
    obtain ⟨rest, -, rfl⟩ := WorkQueue.take_eq_some htake
    exact .inl ⟨rfl, fun _ => rfl⟩
  | @settle settler key staff result hphase hact =>
    refine .inr ⟨key, WorkerPool.label result, ?_, fun other => ?_⟩
    · generalize WorkerPool.label result = label at hact ⊢
      cases label <;> cases hact
      · rfl
      · exact WorkQueue.add_after_limiter _ _ _
      · rfl
    · have hnone := outcomes_queue
        (state.staff.observe (settlement key (WorkerPool.label result))) other
      by_cases heq : key = other <;> simp [outcomes, outcome?, heq] at hnone ⊢
  | release releaser hphase hact =>
    simp only [StaffedQueue.act?, Option.ite_none_right_eq_some, Option.some.injEq] at hact
    obtain ⟨-, rfl⟩ := hact
    exact .inl ⟨WorkQueue.release_limiter _ _, fun _ => rfl⟩
  | count | foreign => exact .inl ⟨rfl, fun _ => rfl⟩

/-- The limiter keeps its backoff. -/
theorem Run.backoff_eq (h : Run kind backoff events state) :
    state.staff.queue.limiter.backoff = backoff := by
  induction h with
  | start => rfl
  | step hrun hstep ih =>
    obtain ⟨hlimiter, -⟩ | ⟨key, label, hlimiter, -⟩ := hstep.limiter
    · rw [hlimiter, ih]
    · rw [hlimiter]
      split <;> exact ih

/-- The limiter knows how often each key has failed in a row, as far as it can count. -/
theorem Run.requeues (h : Run kind backoff events state) (key : String) :
    state.staff.queue.requeues key = min (streak events key) RateLimiter.countLimit := by
  induction h with
  | start => rfl
  | @step events more state next hrun hstep ih =>
    simp only [WorkQueue.requeues] at ih ⊢
    obtain ⟨hlimiter, hnone⟩ | ⟨settled, label, hlimiter, hone⟩ := hstep.limiter
    · rw [hlimiter, ih, streak_append_of_nil (hnone key)]
    · have houtcomes := hone key
      by_cases heq : settled = key
      · rw [if_pos heq] at houtcomes
        rw [hlimiter, streak_append houtcomes, heq]
        split
        · rw [RateLimiter.requeues_record, if_pos rfl, ih]
          omega
        · rw [RateLimiter.requeues_forget, if_pos rfl, Nat.zero_min]
      · rw [if_neg heq] at houtcomes
        rw [hlimiter, streak_append_of_nil houtcomes, ← ih]
        split
        · rw [RateLimiter.requeues_record, if_neg (Ne.symm heq)]
        · rw [RateLimiter.requeues_forget, if_neg (Ne.symm heq)]

/-! ## Keys that come back -/

/-- What is seen of a queue that accepts keys when a key is added with a delay. -/
theorem observe_after_of_open {queue : WorkQueue} (hopen : queue.shuttingDown = false)
    (key : String) (delay : Duration) :
    StaffedQueue.observeAfter queue key delay = [comeback key queue.now delay] := by
  rw [StaffedQueue.observeAfter, comeback]
  split
  · rfl
  · rw [hopen]
    rfl

/-- A failure is seen together with what brings its key back. -/
theorem Step.returns (h : Step kind state more next)
    (hopen : state.staff.queue.shuttingDown = false) {before after : List PoolEvent} {worker : Nat}
    {key : String} (hsplit : more = before ++ .settled worker key .retry :: after) :
    before = [] ∧ after = [.queue (comeback key state.staff.queue.now
      (state.staff.queue.limiter.backoff.delayFor (state.staff.queue.requeues key)))] := by
  have hmem : .settled worker key .retry ∈ more := by simp [hsplit]
  cases h with
  | outside => simp at hmem
  | take | release | count | foreign => simp at hmem
  | @settle settler settled staff result hphase hact =>
    generalize WorkerPool.label result = label at hsplit
    rcases List.cons_eq_append_iff.1 hsplit with ⟨rfl, heq⟩ | ⟨rest, -, heq⟩
    · cases heq
      have hseen := observe_after_of_open hopen key (state.staff.queue.limiter.record key).1
      exact ⟨rfl, congrArg (List.map PoolEvent.queue) hseen⟩
    -- what is seen after the result is seen of the queue alone
    · have hrest : .settled worker key .retry ∈
          (state.staff.observe (settlement settled label)).map PoolEvent.queue := by simp [heq]
      simp at hrest

/-- A failure brings its key back after the delay for the failures before it. -/
theorem Run.returns (h : Run kind backoff events state) {before after : List PoolEvent}
    {worker : Nat} {key : String}
    (hsplit : events = before ++ .settled worker key .retry :: after) :
    ∃ rest, after =
      .queue (comeback key (clock before) (delayAfter backoff before key)) :: rest := by
  induction h generalizing after with
  | start => simp at hsplit
  | @step events more state next hrun hstep ih =>
    have hlast (mid : List PoolEvent) (hmid : before = events ++ mid)
        (hmore : more = mid ++ .settled worker key .retry :: after) :
        ∃ rest, after =
          .queue (comeback key (clock before) (delayAfter backoff before key)) :: rest := by
      obtain ⟨rfl, rfl⟩ := hstep.returns hrun.accepts hmore
      rw [hmid, List.append_nil, delayAfter, hrun.backoff_eq, hrun.requeues, hrun.staff.now_eq]
      exact ⟨[], rfl⟩
    -- the failure is seen in the last step, or it is one of the events before
    rcases List.append_eq_append_iff.1 hsplit with ⟨mid, hmid, hmore⟩ | ⟨mid, hmid, hafter⟩
    · exact hlast mid hmid hmore
    · rcases List.cons_eq_append_iff.1 hafter with ⟨rfl, hmore⟩ | ⟨rest, rfl, hrest⟩
      · exact hlast [] (by simpa using hmid.symm) hmore
      · obtain ⟨found, rfl⟩ := ih hmid
        exact ⟨found ++ more, hrest⟩

/-- A key that comes back is handed out since, or waits, or is held and dirty, or is delayed. -/
theorem comeback_kept {seen before after : List QueueEvent} {staff : StaffedQueue} {key : String}
    {time : Nat} {delay : Duration} (h : StaffedQueue.Run backoff seen staff)
    (hopen : .closed ∉ seen) (hsplit : seen = before ++ comeback key time delay :: after) :
    .taken key ∈ after ∨ key ∈ staff.queue.waiting ∨
      (key ∈ staff.queue.inFlight ∧ key ∈ staff.queue.dirty) ∨
      (delay.nanos ≠ 0 ∧ ⟨key, backAt time delay⟩ ∈ staff.queue.delayed) := by
  rw [comeback] at hsplit
  split at hsplit
  · rcases h.added_kept hopen hsplit rfl with htaken | hwaiting | hheld
    · exact .inl htaken
    · exact .inr (.inl hwaiting)
    · exact .inr (.inr (.inl hheld))
  · next hdelay =>
    rcases h.postponed_kept hsplit hdelay with hmatured | hdelayed
    -- the entry has matured, which has added the key
    · obtain ⟨first, last, rfl⟩ := List.append_of_mem hmatured
      have hadded : seen = (before ++ .postponed ⟨key, backAt time delay⟩ delay :: first) ++
          .matured ⟨key, backAt time delay⟩ :: last := by simp [hsplit]
      rcases h.added_kept hopen hadded rfl with htaken | hwaiting | hheld
      · exact .inl (List.mem_append_right _ (List.mem_cons_of_mem _ htaken))
      · exact .inr (.inl hwaiting)
      · exact .inr (.inr (.inl hheld))
    · exact .inr (.inr (.inr ⟨hdelay, hdelayed⟩))

/-- A key that is handed out is taken by a worker. -/
theorem Run.taken_of_mem (h : Run kind backoff events state) {later : List PoolEvent}
    (hlater : later ⊆ events) {key : String}
    (htaken : .taken key ∈ later.filterMap queueEvent?) : ∃ worker, .taken worker key ∈ later := by
  obtain ⟨event, hevent, hseen⟩ := List.mem_filterMap.1 htaken
  cases event with
  | taken worker other =>
    cases hseen
    exact ⟨worker, hevent⟩
  | queue seen =>
    cases hseen
    cases h.outside_event (hlater hevent)
  | _ => cases hseen

/-- What becomes of keys whose syncs failed, after every run. -/
theorem Run.retried (h : Run kind backoff events state) : Retried backoff events state where
  requeues := h.requeues
  returns _ _ _ _ hsplit := h.returns hsplit
  restarts first other key label middle worker after hsplit hlabel hmiddle := by
    have hsettled : outcomes (.settled other key label :: middle) key = [label] := by
      simpa [outcomes, outcome?] using hmiddle
    have hstreak : streak (first ++ .settled other key label :: middle) key = 0 := by
      rw [streak_append hsettled, if_neg hlabel]
    simpa [delayAfter, hstreak] using h.returns hsplit
  kept before worker key after hsplit := by
    obtain ⟨rest, rfl⟩ := h.returns hsplit
    have hseen : events.filterMap queueEvent? = before.filterMap queueEvent? ++
        comeback key (clock before) (delayAfter backoff before key) ::
          rest.filterMap queueEvent? := by
      rw [hsplit, List.filterMap_append]
      rfl
    refine (comeback_kept h.staff h.closed_not_mem hseen).imp_left fun htaken => ?_
    obtain ⟨other, hother⟩ := h.taken_of_mem (fun event hevent => by simp [hsplit, hevent]) htaken
    exact ⟨other, List.mem_cons_of_mem _ hother⟩
  once := by simpa [List.filterMap_filterMap] using h.staff.postponed_perm
  not_early before entry after hsplit := by
    have hseen : events.filterMap queueEvent? = before.filterMap queueEvent? ++
        .matured entry :: after.filterMap queueEvent? := by
      rw [hsplit, List.filterMap_append]
      rfl
    exact h.staff.matured_due hseen

/-! ## Counters -/

/-- What is seen of the queue alone is no counted sync. -/
theorem completions_queue (seen : List QueueEvent) (controller : String) :
    completions kind (seen.map PoolEvent.queue) controller = [] := by
  simp [completions, List.filterMap_eq_nil_iff, completion?]

/-- A step changes no counter and counts no sync, or it counts one sync of one control loop. -/
theorem Step.metrics (h : Step kind state more next) :
    (next.metrics = state.metrics ∧ ∀ controller, completions kind more controller = []) ∨
    ∃ counted label seconds depth, (counted = kind ∨ counted ∈ controllerKinds) ∧
      next.metrics = (state.metrics.recordSync counted (SyncLabel.name label) seconds).setQueueDepth
        counted depth ∧
      ∀ controller, completions kind more controller =
        if counted = controller then [label] else [] := by
  cases h with
  | outside => exact .inl ⟨rfl, completions_queue _⟩
  | take | release => exact .inl ⟨rfl, fun _ => rfl⟩
  | settle => exact .inl ⟨rfl, completions_queue _⟩
  | count counter seconds hphase =>
    refine .inr ⟨kind, _, seconds, _, .inl rfl, rfl, fun controller => ?_⟩
    by_cases heq : kind = controller <;> simp [completions, completion?, heq]
  | foreign counted label seconds depth hcounted =>
    refine .inr ⟨counted, label, seconds, depth, .inr hcounted, rfl, fun controller => ?_⟩
    by_cases heq : counted = controller <;> simp [completions, completion?, heq]

/-- A sync counts for its control loop and its result. -/
theorem count_completion (counted controller : String) (label result : SyncLabel) :
    (if counted = controller then [label] else []).count result =
      if counted = controller ∧ label = result then 1 else 0 := by
  by_cases heq : counted = controller <;> simp [heq, List.count_singleton]

/-- The counters of a controller agree with the syncs that it has counted. -/
theorem Run.counted (h : Run kind backoff events state) (hkind : kind ∈ controllerKinds)
    {controller : String} (hcontroller : controller ∈ controllerKinds) :
    (∀ label : SyncLabel, state.metrics.reconcileCount controller label.name =
      (completions kind events controller).count label) ∧
    state.metrics.retryCount controller = (completions kind events controller).count .retry := by
  induction h with
  | start => exact ⟨fun _ => rfl, rfl⟩
  | @step events more state next hrun hstep ih =>
    have happend : completions kind (events ++ more) controller =
        completions kind events controller ++ completions kind more controller :=
      List.filterMap_append
    obtain ⟨hmetrics, hnone⟩ | ⟨counted, label, seconds, depth, hknown, hmetrics, hone⟩ :=
      hstep.metrics
    · rwa [hmetrics, happend, hnone, List.append_nil]
    · have hcounted : counted ∈ controllerKinds := hknown.elim (· ▸ hkind) id
      rw [happend, hone, hmetrics]
      refine ⟨fun result => ?_, ?_⟩
      · rw [Metrics.reconcile_count_depth, Metrics.reconcile_count_record hcounted hcontroller,
          ih.1, List.count_append, count_completion]
      · rw [Metrics.retry_count_depth, Metrics.retry_count_record hcounted hcontroller, ih.2,
          List.count_append, count_completion]

/-- Every sync ends in one of three ways. -/
theorem count_labels (labels : List SyncLabel) :
    labels.count .success + labels.count .retry + labels.count .dropped = labels.length := by
  induction labels with
  | nil => rfl
  | cons label labels ih =>
    rw [List.length_cons, ← ih]
    cases label <;> simp <;> omega

/-- The counters of every controller tell how its syncs ended. -/
theorem Run.tallied (h : Run kind backoff events state) (hkind : kind ∈ controllerKinds)
    {controller : String} (hcontroller : controller ∈ controllerKinds) :
    Tallied state.metrics controller (completions kind events controller) := by
  obtain ⟨heach, hretries⟩ := h.counted hkind hcontroller
  refine ⟨heach, ?_, ?_⟩
  · rw [heach, heach, heach, count_labels]
  · rw [hretries, heach]

/-- Every key that a worker takes is settled, given back and counted once; a key whose sync failed
comes back after the delay for its failures in a row, which another result ends; and the counters of
the controllers agree with the syncs. -/
theorem run_retried (h : Run kind backoff events state) :
    Worked kind events state ∧ Retried backoff events state ∧
      (kind ∈ controllerKinds → ∀ controller ∈ controllerKinds,
        Tallied state.metrics controller (completions kind events controller)) :=
  ⟨h.worked, h.retried, fun hkind _ hcontroller => h.tallied hkind hcontroller⟩

/-- A failed call. -/
def failedCall : SyncResult := .error (.api .undecodable)

/-- What is seen of a key that fails twice, is added again while the second worker holds it, and
succeeds before its second backoff is over. -/
def persistence : List PoolEvent := [
  .queue (.added "web/shop"),
  .taken 0 "web/shop", .settled 0 "web/shop" .retry,
  .queue (.postponed ⟨"web/shop", 5_000_000⟩ Backoff.standard.base),
  .released 0 "web/shop", .counted 0 .retry,
  .queue (.elapsed 5_000_000), .queue (.matured ⟨"web/shop", 5_000_000⟩),
  .taken 1 "web/shop", .queue (.added "web/shop"), .settled 1 "web/shop" .retry,
  .queue (.postponed ⟨"web/shop", 15_000_000⟩ (.milliseconds 10)),
  .released 1 "web/shop", .taken 0 "web/shop", .counted 1 .retry,
  .settled 0 "web/shop" .success, .released 0 "web/shop", .counted 0 .success]

/-- The run of a key that fails twice. -/
theorem run_persistence : ∃ state, Run "Function" .standard persistence state := by
  have hadded : Run "Function" .standard _ _ := .step .start (.outside (.add "web/shop") rfl rfl)
  have htaken := hadded.step (.take 0 rfl rfl)
  have hfailed := htaken.step (.settle 0 failedCall rfl rfl)
  have hreleased := hfailed.step (.release 0 rfl rfl)
  have hcounted := hreleased.step (.count 0 .zero rfl)
  have hdue := hcounted.step (.outside (.elapse 5_000_000) rfl rfl)
  have hback := hdue.step (.outside (.fire ⟨"web/shop", 5_000_000⟩) rfl rfl)
  have hretaken := hback.step (.take 1 rfl rfl)
  have hreadded := hretaken.step (.outside (.add "web/shop") rfl rfl)
  have hrefailed := hreadded.step (.settle 1 failedCall rfl rfl)
  have hagain := hrefailed.step (.release 1 rfl rfl)
  have hlast := hagain.step (.take 0 rfl rfl)
  have hrecounted := hlast.step (.count 1 .zero rfl)
  have hdone := hrecounted.step (.settle 0 (.ok .updated) rfl rfl)
  have hgiven := hdone.step (.release 0 rfl rfl)
  exact ⟨_, hgiven.step (.count 0 .zero rfl)⟩

/-- After two failures and a success the row has ended, the second backoff is still running, and
two of three syncs are counted as retries. -/
theorem run_retried_persistence :
    ∃ state, Run "Function" .standard persistence state ∧ Worked "Function" persistence state ∧
      Retried .standard persistence state ∧ state.staff.queue.requeues "web/shop" = 0 ∧
      Tallied state.metrics "Function" [.retry, .retry, .success] := by
  obtain ⟨state, hrun⟩ := run_persistence
  obtain ⟨hworked, hretried, htallied⟩ := run_retried hrun
  refine ⟨state, hrun, hworked, hretried, ?_, htallied (by decide) "Function" (by decide)⟩
  rw [hretried.requeues]
  decide

/-! ## Delays that are cut short -/

/-- A backoff of two billion seconds, which are more than sixty years. -/
def patient : Backoff :=
  have hlimit : 2_000_000_000_000_000_000 ≤ Duration.limit := by decide
  ⟨⟨2_000_000_000_000_000_000, hlimit⟩, ⟨2_000_000_000_000_000_000, hlimit⟩⟩

/-- What is seen of a key after it failed, until it is handed out again. -/
def impatience : List PoolEvent := [
  .queue (.postponed ⟨"web/shop", WorkQueue.longestDelay⟩ patient.base),
  .released 0 "web/shop", .counted 0 .retry,
  .queue (.elapsed WorkQueue.longestDelay),
  .queue (.matured ⟨"web/shop", WorkQueue.longestDelay⟩), .taken 0 "web/shop"]

/-- A key that failed is handed out again before its delay has passed: the only entry that was made
for it is due after the longest delay, and none is left. -/
theorem run_early :
    let before : List PoolEvent := [.queue (.added "web/shop"), .taken 0 "web/shop"]
    let events := before ++ .settled 0 "web/shop" .retry :: impatience
    ∃ state, Run "Function" patient events state ∧ .taken 0 "web/shop" ∈ impatience ∧
      clock events < clock before + (delayAfter patient before "web/shop").nanos ∧
      (impatience.filterMap fun event => event.queueEvent?.bind QueueEvent.postponedEntry?) =
        [⟨"web/shop", clock before + WorkQueue.longestDelay⟩] ∧
      state.staff.queue.delayed = [] := by
  intro before events
  have hadded : Run "Function" patient _ _ := .step .start (.outside (.add "web/shop") rfl rfl)
  have htaken := hadded.step (.take 0 rfl rfl)
  have hfailed := htaken.step (.settle 0 failedCall rfl rfl)
  have hreleased := hfailed.step (.release 0 rfl rfl)
  have hcounted := hreleased.step (.count 0 .zero rfl)
  have hdue := hcounted.step (.outside (.elapse WorkQueue.longestDelay) rfl rfl)
  have hback := hdue.step (.outside (.fire ⟨"web/shop", WorkQueue.longestDelay⟩) rfl rfl)
  exact ⟨_, hback.step (.take 0 rfl rfl), by decide, by decide, by decide, rfl⟩

end StaffedPool

end FunctionOperator
