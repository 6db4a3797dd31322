import FunctionOperator.Proofs.WorkQueue.Run
import Mathlib.Data.List.Nodup

/-!
# One worker for a key

How the three collections of a queue stay in step. Read `WorkQueue.SingleFlight` first: what waits
is dirty and held by nobody, and nothing dirty is forgotten before the shutdown. Every operation
keeps these relations, so they hold after every run, and a key that is handed out is held by no
other worker.
-/

namespace FunctionOperator

namespace WorkQueue

/-- The relations between the keys that wait, those that are dirty and those that are held. -/
structure SingleFlight (queue : WorkQueue) : Prop where
  /-- No key waits twice. -/
  waiting_nodup : queue.waiting.Nodup
  /-- What waits is not held. -/
  waiting_idle : ∀ key ∈ queue.waiting, key ∉ queue.inFlight
  /-- What waits is dirty. -/
  waiting_dirty : ∀ key ∈ queue.waiting, key ∈ queue.dirty
  /-- What is dirty waits or is held, as long as the queue accepts keys. -/
  dirty_placed : queue.shuttingDown = false →
    ∀ key ∈ queue.dirty, key ∈ queue.waiting ∨ key ∈ queue.inFlight

/-- The empty queue has nothing to keep in step. -/
theorem single_flight_new (backoff : Backoff) : (new backoff).SingleFlight :=
  ⟨.nil, by simp [new], by simp [new], by simp [new]⟩

namespace SingleFlight

variable {queue : WorkQueue}

/-- A queue that differs only in its time, its counts and its delayed keys is as well in step. -/
theorem of_same (h : queue.SingleFlight) (limiter : RateLimiter) (delayed : List DelayedKey)
    (now : Nat) :
    { queue with limiter := limiter, delayed := delayed, now := now }.SingleFlight :=
  ⟨h.waiting_nodup, h.waiting_idle, h.waiting_dirty, h.dirty_placed⟩

/-- Adding a key keeps the collections in step. -/
theorem add (h : queue.SingleFlight) (key : String) : (queue.add key).SingleFlight := by
  obtain ⟨hadd, -⟩ | ⟨hadd, -, -, hheld⟩ | ⟨hadd, -, hclean, hidle⟩ := add_cases queue key
  · rwa [hadd]
  -- a held key only becomes dirty
  · rw [hadd]
    refine ⟨h.waiting_nodup, h.waiting_idle, fun other hother => ?_, fun hopen other hother => ?_⟩
    · exact List.mem_cons_of_mem _ (h.waiting_dirty other hother)
    · rcases List.mem_cons.1 hother with rfl | hother
      · exact .inr hheld
      · exact h.dirty_placed hopen other hother
  -- an idle key joins those that wait, where it cannot be yet: it was not dirty
  · have hfresh : key ∉ queue.waiting := fun hmem => hclean (h.waiting_dirty key hmem)
    rw [hadd]
    refine ⟨List.concat_eq_append ▸ h.waiting_nodup.concat hfresh, ?_, ?_,
      fun hopen other hother => ?_⟩
    · exact List.forall_mem_append.2 ⟨h.waiting_idle, List.forall_mem_singleton.2 hidle⟩
    · refine List.forall_mem_append.2 ⟨fun other hother => ?_, List.forall_mem_singleton.2 ?_⟩
      · exact List.mem_cons_of_mem _ (h.waiting_dirty other hother)
      · exact List.mem_cons_self
    · rcases List.mem_cons.1 hother with rfl | hother
      · exact .inl (List.mem_append_right _ List.mem_cons_self)
      · exact (h.dirty_placed hopen other hother).imp_left (List.mem_append_left _)

/-- Adding a key with a delay keeps the collections in step. -/
theorem add_after (h : queue.SingleFlight) (key : String) (delay : Duration) :
    (queue.addAfter key delay).SingleFlight := by
  obtain ⟨hadd, -⟩ | ⟨hadd, -⟩ | ⟨hadd, -⟩ := add_after_cases queue key delay
  · rw [hadd]
    exact h.add key
  · rwa [hadd]
  · rw [hadd]
    exact h.of_same queue.limiter _ queue.now

/-- Adding a key after its backoff keeps the collections in step. -/
theorem add_rate_limited (h : queue.SingleFlight) (key : String) :
    (queue.addRateLimited key).SingleFlight :=
  (h.of_same (queue.limiter.record key).2 queue.delayed queue.now).add_after key _

/-- Adding a delayed key keeps the collections in step. -/
theorem fire (h : queue.SingleFlight) (entry : DelayedKey) : (queue.fire entry).SingleFlight :=
  (h.of_same queue.limiter (queue.delayed.erase entry) queue.now).add entry.key

/-- Handing a key out keeps the collections in step. -/
theorem take (h : queue.SingleFlight) {key : String} {next : WorkQueue}
    (htake : queue.take? = some (key, next)) : next.SingleFlight := by
  obtain ⟨rest, hwaiting, rfl⟩ := take_eq_some htake
  have hmem {other : String} (hother : other ∈ rest) : other ∈ queue.waiting :=
    hwaiting ▸ List.mem_cons_of_mem _ hother
  have hnodup : (key :: rest).Nodup := hwaiting ▸ h.waiting_nodup
  have hne {other : String} (hother : other ∈ rest) : other ≠ key := by
    rintro rfl
    exact (List.nodup_cons.1 hnodup).1 hother
  refine ⟨(List.nodup_cons.1 hnodup).2, fun other hother => ?_, fun other hother => ?_,
    fun hopen other hother => ?_⟩
  · intro hheld
    rcases List.mem_cons.1 hheld with heq | hheld
    · exact hne hother heq
    · exact h.waiting_idle other (hmem hother) (List.mem_filter.1 hheld).1
  · exact List.mem_filter.2 ⟨h.waiting_dirty other (hmem hother), by simpa using hne hother⟩
  · obtain ⟨hdirty, hother⟩ : other ∈ queue.dirty ∧ other ≠ key := by simpa using hother
    rcases h.dirty_placed hopen other hdirty with hplaced | hplaced
    · rw [hwaiting] at hplaced
      exact .inl ((List.mem_cons.1 hplaced).resolve_left hother)
    · exact .inr (List.mem_cons_of_mem _ (List.mem_filter.2 ⟨hplaced, by simpa using hother⟩))

/-- Giving back a held key keeps the collections in step. -/
theorem release (h : queue.SingleFlight) {key : String} (hheld : key ∈ queue.inFlight) :
    (queue.release key).SingleFlight := by
  have hfresh : key ∉ queue.waiting := fun hmem => h.waiting_idle key hmem hheld
  obtain ⟨hrelease, hdirty, -⟩ | ⟨hrelease, hclean⟩ := release_cases queue key
  · rw [hrelease]
    refine ⟨List.concat_eq_append ▸ h.waiting_nodup.concat hfresh, ?_,
      List.forall_mem_append.2 ⟨h.waiting_dirty, List.forall_mem_singleton.2 hdirty⟩,
      fun hopen other hother => ?_⟩
    · refine List.forall_mem_append.2 ⟨fun other hother hmem => ?_,
        List.forall_mem_singleton.2 (by simp)⟩
      exact h.waiting_idle other hother (List.mem_filter.1 hmem).1
    · by_cases heq : other = key
      · exact .inl (List.mem_append_right _ (List.mem_singleton.2 heq))
      · exact (h.dirty_placed hopen other hother).imp (List.mem_append_left _)
          fun hmem => List.mem_filter.2 ⟨hmem, by simpa using heq⟩
  · rw [hrelease]
    refine ⟨h.waiting_nodup, fun other hother hmem => ?_, h.waiting_dirty,
      fun hopen other hother => ?_⟩
    · exact h.waiting_idle other hother (List.mem_filter.1 hmem).1
    · have hne : other ≠ key := fun heq => hclean hopen (heq ▸ hother)
      exact (h.dirty_placed hopen other hother).imp_right
        fun hmem => List.mem_filter.2 ⟨hmem, by simpa using hne⟩

/-- After the shutdown nothing dirty has to be placed. -/
theorem shut_down (h : queue.SingleFlight) : queue.shutDown.SingleFlight :=
  ⟨h.waiting_nodup, h.waiting_idle, h.waiting_dirty, fun hopen => by cases hopen⟩

end SingleFlight

end WorkQueue

namespace WorkQueue

variable {queue : WorkQueue}

@[simp] theorem add_after_in_flight (queue : WorkQueue) (key : String) (delay : Duration) :
    (queue.addAfter key delay).inFlight = queue.inFlight := by
  obtain ⟨h, -⟩ | ⟨h, -⟩ | ⟨h, -⟩ := add_after_cases queue key delay
  · rw [h, add_in_flight]
  · rw [h]
  · rw [h]

/-- A key that is given back is held no more, and the others stay held. -/
theorem mem_release_in_flight {key other : String} :
    other ∈ (queue.release key).inFlight ↔ other ∈ queue.inFlight ∧ other ≠ key := by
  obtain ⟨h, -⟩ | ⟨h, -⟩ := release_cases queue key <;> rw [h] <;> simp

end WorkQueue

namespace StaffedQueue

/-- A queue in step whose held keys are those of its workers, each of one worker. -/
structure Sound (state : StaffedQueue) : Prop where
  /-- The collections of the queue are in step. -/
  single_flight : state.queue.SingleFlight
  /-- No key is held twice. -/
  held_nodup : (state.held.map (·.2)).Nodup
  /-- What the queue takes as held is what workers hold. -/
  mem_in_flight : ∀ key, key ∈ state.queue.inFlight ↔ key ∈ state.held.map (·.2)

namespace Sound

variable {state next : StaffedQueue}

/-- The empty queue is sound. -/
theorem new (backoff : Backoff) : (StaffedQueue.new backoff).Sound :=
  ⟨WorkQueue.single_flight_new backoff, .nil, by simp [StaffedQueue.new, WorkQueue.new]⟩

/-- A change that leaves the held keys alone keeps a sound queue sound. -/
theorem map_queue (h : state.Sound) {change : WorkQueue → WorkQueue}
    (hflight : (change state.queue).SingleFlight)
    (hheld : (change state.queue).inFlight = state.queue.inFlight) :
    (state.mapQueue change).Sound :=
  ⟨hflight, h.held_nodup, fun key => by
    show key ∈ (change state.queue).inFlight ↔ _
    rw [hheld, h.mem_in_flight key]
    rfl⟩

/-- A key that is handed out was held by nobody. -/
theorem take_not_held (h : state.Sound) {key : String} {queue : WorkQueue}
    (htake : state.queue.take? = some (key, queue)) : key ∉ state.held.map (·.2) := by
  obtain ⟨rest, hwaiting, -⟩ := WorkQueue.take_eq_some htake
  rw [← h.mem_in_flight key]
  exact h.single_flight.waiting_idle key (hwaiting ▸ List.mem_cons_self)

/-- Handing a key to a worker keeps a sound queue sound. -/
theorem take (h : state.Sound) {key : String} {queue : WorkQueue} (worker : Nat)
    (htake : state.queue.take? = some (key, queue)) :
    (⟨queue, (worker, key) :: state.held⟩ : StaffedQueue).Sound := by
  have hfresh := h.take_not_held htake
  refine ⟨h.single_flight.take htake, List.nodup_cons.2 ⟨hfresh, h.held_nodup⟩, fun other => ?_⟩
  obtain ⟨rest, -, rfl⟩ := WorkQueue.take_eq_some htake
  by_cases heq : other = key
  · simp [heq]
  · simpa [heq] using h.mem_in_flight other

/-- What is held after a worker gave back a key. -/
theorem mem_held_erase (h : state.Sound) {worker : Nat} {key : String}
    (hheld : (worker, key) ∈ state.held) (other : String) :
    other ∈ (state.held.erase (worker, key)).map (·.2) ↔
      other ∈ state.held.map (·.2) ∧ other ≠ key := by
  have hnodup : state.held.Nodup := .of_map _ h.held_nodup
  constructor
  · intro hmem
    obtain ⟨⟨holder, _⟩, hpair, rfl⟩ := List.mem_map.1 hmem
    obtain ⟨hne, hpair⟩ := hnodup.mem_erase_iff.1 hpair
    refine ⟨List.mem_map.2 ⟨_, hpair, rfl⟩, fun heq => hne ?_⟩
    exact List.inj_on_of_nodup_map h.held_nodup hpair hheld heq
  · rintro ⟨hmem, hne⟩
    obtain ⟨pair, hpair, rfl⟩ := List.mem_map.1 hmem
    refine List.mem_map.2 ⟨pair, hnodup.mem_erase_iff.2 ⟨fun heq => hne ?_, hpair⟩, rfl⟩
    rw [heq]

/-- Taking a key back from its worker keeps a sound queue sound. -/
theorem release (h : state.Sound) {worker : Nat} {key : String}
    (hheld : (worker, key) ∈ state.held) :
    (⟨state.queue.release key, state.held.erase (worker, key)⟩ : StaffedQueue).Sound := by
  have hflight : key ∈ state.queue.inFlight :=
    (h.mem_in_flight key).2 (List.mem_map.2 ⟨_, hheld, rfl⟩)
  refine ⟨h.single_flight.release hflight,
    h.held_nodup.sublist (List.erase_sublist.map _), fun other => ?_⟩
  rw [h.mem_held_erase hheld, WorkQueue.mem_release_in_flight, h.mem_in_flight]

/-- Every action keeps a sound queue sound. -/
theorem act (h : state.Sound) {action : QueueAction} (hact : state.act? action = some next) :
    next.Sound := by
  cases action with
  | add key =>
    cases hact
    exact h.map_queue (h.single_flight.add key) (WorkQueue.add_in_flight _ key)
  | addAfter key delay =>
    cases hact
    exact h.map_queue (h.single_flight.add_after key delay) (WorkQueue.add_after_in_flight _ _ _)
  | addRateLimited key =>
    cases hact
    exact h.map_queue (h.single_flight.add_rate_limited key) (WorkQueue.add_after_in_flight _ _ _)
  | forget key =>
    cases hact
    exact h.map_queue (h.single_flight.of_same _ _ _) rfl
  | elapse nanos =>
    cases hact
    exact h.map_queue (h.single_flight.of_same _ _ _) rfl
  | fire entry =>
    simp only [act?, Option.ite_none_right_eq_some, Option.some.injEq] at hact
    obtain ⟨-, rfl⟩ := hact
    exact h.map_queue (h.single_flight.fire entry) (WorkQueue.add_in_flight _ _)
  | take worker =>
    simp only [act?] at hact
    split at hact
    · next htake =>
      cases hact
      exact h.take worker htake
    · cases hact
      exact h
  | release worker key =>
    simp only [act?, Option.ite_none_right_eq_some, Option.some.injEq] at hact
    obtain ⟨hheld, rfl⟩ := hact
    exact h.release hheld
  | shutDown =>
    cases hact
    exact h.map_queue h.single_flight.shut_down rfl

end Sound

/-- Every state of a run is sound. -/
theorem Run.sound {backoff : Backoff} {events : List QueueEvent} {state : StaffedQueue}
    (h : Run backoff events state) : state.Sound := by
  induction h with
  | start => exact .new backoff
  | step action _ hact ih => exact ih.act hact

/-- In every state of every run no key waits twice, none waits while it is held, every key that
waits is dirty, and until the shutdown every dirty key waits or is held. What the queue takes as
held is what workers hold, no two hands hold the same key, and the next key is in nobody's hands. -/
theorem run_single_flight {backoff : Backoff} {events : List QueueEvent} {state : StaffedQueue}
    (h : Run backoff events state) :
    state.queue.waiting.Nodup ∧
    (∀ key ∈ state.queue.waiting, key ∉ state.queue.inFlight) ∧
    (∀ key ∈ state.queue.waiting, key ∈ state.queue.dirty) ∧
    (QueueEvent.closed ∉ events →
      ∀ key ∈ state.queue.dirty, key ∈ state.queue.waiting ∨ key ∈ state.queue.inFlight) ∧
    (∀ key, key ∈ state.queue.inFlight ↔ ∃ worker, (worker, key) ∈ state.held) ∧
    (state.held.map (·.2)).Nodup ∧
    ∀ key queue, state.queue.take? = some (key, queue) → ∀ worker, (worker, key) ∉ state.held := by
  have hsound := h.sound
  have hflight := hsound.single_flight
  have hopen (hclosed : QueueEvent.closed ∉ events) : state.queue.shuttingDown = false :=
    Bool.eq_false_iff.2 fun hshut => hclosed (h.shutting_down_iff.1 hshut)
  have hholder (key : String) :
      key ∈ state.held.map (·.2) ↔ ∃ worker, (worker, key) ∈ state.held := by
    simp
  refine ⟨hflight.waiting_nodup, hflight.waiting_idle, hflight.waiting_dirty,
    fun hclosed => hflight.dirty_placed (hopen hclosed), fun key => ?_, hsound.held_nodup,
    fun key queue htake worker hheld => ?_⟩
  · rw [hsound.mem_in_flight, hholder]
  · exact hsound.take_not_held htake ((hholder key).2 ⟨worker, hheld⟩)

/-- A queue in which a worker holds a key that was added again, and another key waits. -/
def readded : StaffedQueue :=
  ⟨{ WorkQueue.new .standard with waiting := ["b"], dirty := ["b", "a"], inFlight := ["a"] },
    [(0, "a")]⟩

/-- The run to a queue in which a held key was added again. -/
theorem run_readded :
    Run .standard [.added "a", .taken "a", .added "a", .added "b"] readded :=
  .step (.add "b") (.step (.add "a") (.step (.take 0) (.step (.add "a") .start rfl) rfl) rfl) rfl

/-- A key that was added again while it is held does not wait, and is not handed out twice. -/
theorem run_single_flight_readded :
    Run .standard [.added "a", .taken "a", .added "a", .added "b"] readded ∧
      readded.queue.waiting.Nodup ∧ (∀ key ∈ readded.queue.dirty,
        key ∈ readded.queue.waiting ∨ key ∈ readded.queue.inFlight) ∧
      ∀ key queue, readded.queue.take? = some (key, queue) →
        ∀ worker, (worker, key) ∉ readded.held :=
  have ⟨hnodup, _, _, hplaced, _, _, hnext⟩ := run_single_flight run_readded
  ⟨run_readded, hnodup, hplaced (by decide), hnext⟩

end StaffedQueue

end FunctionOperator
