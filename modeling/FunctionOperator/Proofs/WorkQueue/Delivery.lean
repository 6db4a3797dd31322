import FunctionOperator.Proofs.WorkQueue.SingleFlight
import Mathlib.Data.List.Induction

/-!
# No notification is lost and none invented

What the events of a run say about the keys of its queue. Read `KeyPlace.next` first: it follows one
key through the events alone, without looking at a queue. `Tracked` says that a queue agrees with
this account, and that keys are handed out in the order in which they joined those that wait. Every
action keeps it, so the account decides what is handed out, when and how often.
-/

namespace FunctionOperator

namespace QueueEvent

/-- The key that an event adds. A delayed key is added when its entry matures. -/
def addedKey? : QueueEvent → Option String
  | .added key => some key
  | .matured entry => some entry.key
  | _ => none

/-- The key that an event hands out. -/
def takenKey? : QueueEvent → Option String
  | .taken key => some key
  | _ => none

/-- The key that an event gives back. -/
def releasedKey? : QueueEvent → Option String
  | .released key => some key
  | _ => none

/-- The entry that an event creates. -/
def postponedEntry? : QueueEvent → Option DelayedKey
  | .postponed entry _ => some entry
  | _ => none

/-- The entry whose key an event adds. -/
def maturedEntry? : QueueEvent → Option DelayedKey
  | .matured entry => some entry
  | _ => none

/-- The time that passes by an event, in nanoseconds. -/
def nanos : QueueEvent → Nat
  | .elapsed nanos => nanos
  | _ => 0

/-- The time that has passed after some events. -/
def clock : List QueueEvent → Nat
  | [] => 0
  | event :: events => event.nanos + clock events

/-- Times add up. -/
@[simp] theorem clock_append (events later : List QueueEvent) :
    clock (events ++ later) = clock events + clock later := by
  induction events with
  | nil => simp [clock]
  | cons event events ih => rw [List.cons_append, clock, clock, ih, Nat.add_assoc]

/-- An event that adds a key neither hands one out nor takes one back. -/
theorem only_added {event : QueueEvent} {key : String} (h : event.addedKey? = some key) :
    event.takenKey? = none ∧ event.releasedKey? = none := by
  cases event <;> simp_all [addedKey?, takenKey?, releasedKey?]

end QueueEvent

/-- Where a key is, as far as the events tell. -/
inductive KeyPlace where
  /-- It neither waits nor is held. -/
  | idle
  /-- It waits for a worker. -/
  | waiting
  /-- A worker holds it. -/
  | held
  /-- A worker holds it, and it was added since. -/
  | readded
deriving DecidableEq

namespace KeyPlace

/-- Where a key is after it was added. -/
def whenAdded : KeyPlace → KeyPlace
  | .idle => .waiting
  | .held => .readded
  | place => place

/-- Where a key is after it was given back. -/
def whenReleased : KeyPlace → KeyPlace
  | .held => .idle
  | .readded => .waiting
  | place => place

/-- Where a key is after an event. -/
def next (key : String) (place : KeyPlace) (event : QueueEvent) : KeyPlace :=
  if event.addedKey? = some key then place.whenAdded
  else if event.takenKey? = some key then .held
  else if event.releasedKey? = some key then place.whenReleased
  else place

/-- Where a key is after some events. -/
def after (events : List QueueEvent) (key : String) : KeyPlace := events.foldl (next key) .idle

/-- Whether a key was added and not handed out since. -/
def Pending (place : KeyPlace) : Prop := place = .waiting ∨ place = .readded

/-- The key that joins those that wait: an idle key when it is added, and a key that was added while
it was held when it is given back. -/
def joined? (events : List QueueEvent) (event : QueueEvent) : Option String :=
  (event.addedKey?.filter (after events · = .idle)).or
    (event.releasedKey?.filter (after events · = .readded))

/-- The keys that join those that wait in further events, in their order. -/
def joinedFrom (past : List QueueEvent) : List QueueEvent → List String
  | [] => []
  | event :: events => (joined? past event).toList ++ joinedFrom (past ++ [event]) events

@[simp] theorem after_append (events : List QueueEvent) (event : QueueEvent) (key : String) :
    after (events ++ [event]) key = (after events key).next key event := by
  simp [after]

/-- The keys that join in one more event come last. -/
theorem joined_from_append (past events : List QueueEvent) (event : QueueEvent) :
    joinedFrom past (events ++ [event]) =
      joinedFrom past events ++ (joined? (past ++ events) event).toList := by
  induction events generalizing past with
  | nil => simp [joinedFrom]
  | cons first events ih => simp [joinedFrom, ih]

/-- Adding a key makes it pending. -/
theorem pending_next_of_added {event : QueueEvent} {key : String}
    (h : event.addedKey? = some key) (place : KeyPlace) : (place.next key event).Pending := by
  rw [next, if_pos h]
  cases place <;> simp [whenAdded, Pending]

/-- A pending key stays pending until it is handed out. -/
theorem Pending.next {place : KeyPlace} (hpending : place.Pending) {event : QueueEvent}
    {key : String} (h : event ≠ .taken key) : (place.next key event).Pending := by
  have htaken : event.takenKey? ≠ some key := by
    intro htaken
    cases event <;> simp_all [QueueEvent.takenKey?]
  rw [KeyPlace.next, if_neg htaken]
  obtain rfl | rfl := hpending <;> split_ifs <;> simp [whenAdded, whenReleased, Pending]

/-- A pending key stays pending through events that do not hand it out. -/
theorem Pending.foldl {place : KeyPlace} (hpending : place.Pending) {events : List QueueEvent}
    {key : String} (h : .taken key ∉ events) : (events.foldl (KeyPlace.next key) place).Pending := by
  induction events generalizing place with
  | nil => exact hpending
  | cons event events ih =>
    rw [List.mem_cons, not_or] at h
    exact ih (hpending.next (Ne.symm h.1)) h.2

/-- A key that becomes pending by an event is added by it, or was pending before. -/
theorem pending_of_next {place : KeyPlace} {event : QueueEvent} {key : String}
    (h : (place.next key event).Pending) :
    event.addedKey? = some key ∨ (event ≠ .taken key ∧ place.Pending) := by
  by_cases hadded : event.addedKey? = some key
  · exact .inl hadded
  · refine .inr ⟨?_, ?_⟩
    · rintro rfl
      simp [KeyPlace.next, QueueEvent.addedKey?, QueueEvent.takenKey?, Pending] at h
    · rw [KeyPlace.next, if_neg hadded] at h
      split_ifs at h
      · simp [Pending] at h
      · cases place <;> simp_all [whenReleased, Pending]
      · exact h

/-- A pending key was added, and not handed out since. -/
theorem added_of_pending {events : List QueueEvent} {key : String}
    (h : (after events key).Pending) :
    ∃ first event last, events = first ++ event :: last ∧ event.addedKey? = some key ∧
      .taken key ∉ last := by
  induction events using List.reverseRecOn with
  | nil => simp [after, Pending] at h
  | append_singleton events event ih =>
    rw [after_append] at h
    rcases pending_of_next h with hadded | ⟨hne, hpending⟩
    · exact ⟨events, event, [], rfl, hadded, List.not_mem_nil⟩
    · obtain ⟨first, origin, last, rfl, hadded, hlast⟩ := ih hpending
      refine ⟨first, origin, last ++ [event], by simp, hadded, ?_⟩
      simp [hlast, Ne.symm hne]

end KeyPlace

namespace WorkQueue

/-- A queue agrees with what the events tell of its keys, and keys were handed out in the order in
which they joined. -/
structure Tracked (events : List QueueEvent) (queue : WorkQueue) : Prop where
  /-- The keys that wait. -/
  mem_waiting : ∀ key, key ∈ queue.waiting ↔ KeyPlace.after events key = .waiting
  /-- The keys that are held. -/
  mem_in_flight : ∀ key, key ∈ queue.inFlight ↔
    KeyPlace.after events key = .held ∨ KeyPlace.after events key = .readded
  /-- The dirty keys. -/
  mem_dirty : ∀ key, key ∈ queue.dirty ↔ (KeyPlace.after events key).Pending
  /-- What was handed out and what waits have joined in this order. -/
  order : events.filterMap QueueEvent.takenKey? ++ queue.waiting = KeyPlace.joinedFrom [] events

namespace Tracked

variable {events : List QueueEvent} {queue next : WorkQueue} {event : QueueEvent} {key : String}

/-- An event that moves no key leaves an account true. -/
theorem unmoved (h : Tracked events queue)
    (hplace : ∀ key, (KeyPlace.after events key).next key event = KeyPlace.after events key)
    (hjoined : KeyPlace.joined? events event = none) (htaken : event.takenKey? = none) :
    Tracked (events ++ [event]) queue := by
  refine ⟨?_, ?_, ?_, ?_⟩
  · intro key
    rw [KeyPlace.after_append, hplace, h.mem_waiting]
  · intro key
    rw [KeyPlace.after_append, hplace, h.mem_in_flight]
  · intro key
    rw [KeyPlace.after_append, hplace, h.mem_dirty]
  · rw [List.filterMap_append, KeyPlace.joined_from_append, ← h.order]
    simp [hjoined, htaken]

/-- An event that is about no key leaves an account true. -/
theorem neutral (h : Tracked events queue) (hadded : event.addedKey? = none)
    (htaken : event.takenKey? = none) (hreleased : event.releasedKey? = none) :
    Tracked (events ++ [event]) queue :=
  h.unmoved (by simp [KeyPlace.next, hadded, htaken, hreleased])
    (by simp [KeyPlace.joined?, hadded, hreleased]) htaken

/-- A queue that differs only in its time, its counts and its delayed keys agrees as well. -/
theorem of_same (h : Tracked events queue) (limiter : RateLimiter) (delayed : List DelayedKey)
    (now : Nat) :
    Tracked events { queue with limiter := limiter, delayed := delayed, now := now } :=
  ⟨h.mem_waiting, h.mem_in_flight, h.mem_dirty, h.order⟩

/-- Adding a key is what an event that adds it tells. -/
theorem add (h : Tracked events queue) (hopen : queue.shuttingDown = false)
    (hadded : event.addedKey? = some key) : Tracked (events ++ [event]) (queue.add key) := by
  obtain ⟨htaken, hreleased⟩ := QueueEvent.only_added hadded
  have hnext (other : String) : (KeyPlace.after events other).next other event =
      if other = key then (KeyPlace.after events key).whenAdded
      else KeyPlace.after events other := by
    by_cases heq : other = key
    · simp [KeyPlace.next, heq, hadded]
    · simp [KeyPlace.next, heq, hadded, htaken, hreleased, Ne.symm heq]
  have hjoined : KeyPlace.joined? events event =
      if KeyPlace.after events key = .idle then some key else none := by
    simp [KeyPlace.joined?, hadded, hreleased, Option.filter]
  obtain ⟨hadd, hdone⟩ | ⟨hadd, -, hclean, hheld⟩ | ⟨hadd, -, hclean, hidle⟩ := add_cases queue key
  -- the key is pending already
  · have hpending := (h.mem_dirty key).1 (hdone.resolve_left (by simp [hopen]))
    rw [hadd]
    refine h.unmoved (fun other => ?_) ?_ htaken
    · rw [hnext]
      split
      · next heq => obtain hplace | hplace := hpending <;> simp [heq, hplace, KeyPlace.whenAdded]
      · rfl
    · obtain hplace | hplace := hpending <;> simp [hjoined, hplace]
  -- the key is held, and only becomes dirty
  · have hplace : KeyPlace.after events key = .held :=
      ((h.mem_in_flight key).1 hheld).resolve_right fun hplace =>
        hclean ((h.mem_dirty key).2 (.inr hplace))
    rw [hadd]
    refine ⟨?_, ?_, ?_, ?_⟩
    · intro other
      rw [KeyPlace.after_append, hnext, h.mem_waiting]
      split <;> simp_all [KeyPlace.whenAdded]
    · intro other
      rw [KeyPlace.after_append, hnext, h.mem_in_flight]
      split <;> simp_all [KeyPlace.whenAdded]
    · intro other
      rw [KeyPlace.after_append, hnext, List.mem_cons, h.mem_dirty]
      split <;> simp_all [KeyPlace.whenAdded, KeyPlace.Pending]
    · rw [List.filterMap_append, KeyPlace.joined_from_append, ← h.order]
      simp [hjoined, hplace, htaken]
  -- the key is idle, and joins
  · have hplace : KeyPlace.after events key = .idle := by
      have hwaiting := mt (h.mem_dirty key).2 hclean
      have hheld := mt (h.mem_in_flight key).2 hidle
      cases hcase : KeyPlace.after events key <;> simp_all [KeyPlace.Pending]
    rw [hadd]
    refine ⟨?_, ?_, ?_, ?_⟩
    · intro other
      rw [KeyPlace.after_append, hnext, List.mem_append, List.mem_singleton, h.mem_waiting]
      split <;> simp_all [KeyPlace.whenAdded]
    · intro other
      rw [KeyPlace.after_append, hnext, h.mem_in_flight]
      split <;> simp_all [KeyPlace.whenAdded]
    · intro other
      rw [KeyPlace.after_append, hnext, List.mem_cons, h.mem_dirty]
      split <;> simp_all [KeyPlace.whenAdded, KeyPlace.Pending]
    · rw [List.filterMap_append, KeyPlace.joined_from_append, ← h.order]
      simp [hjoined, hplace, htaken]

/-- Handing out a key is what its event tells. -/
theorem take (h : Tracked events queue) (hflight : queue.SingleFlight)
    (htake : queue.take? = some (key, next)) : Tracked (events ++ [.taken key]) next := by
  obtain ⟨rest, hwaiting, rfl⟩ := take_eq_some htake
  have hnext (other : String) : (KeyPlace.after events other).next other (.taken key) =
      if other = key then .held else KeyPlace.after events other := by
    by_cases heq : other = key
    · simp [KeyPlace.next, heq, QueueEvent.addedKey?, QueueEvent.takenKey?]
    · simp [KeyPlace.next, heq, QueueEvent.addedKey?, QueueEvent.takenKey?,
        QueueEvent.releasedKey?, Ne.symm heq]
  have hplace : KeyPlace.after events key = .waiting :=
    (h.mem_waiting key).1 (hwaiting ▸ List.mem_cons_self)
  have hfresh : key ∉ rest := (List.nodup_cons.1 (hwaiting ▸ hflight.waiting_nodup)).1
  have hmem (other : String) : other ∈ queue.waiting ↔ other = key ∨ other ∈ rest := by
    rw [hwaiting, List.mem_cons]
  refine ⟨?_, ?_, ?_, ?_⟩
  · intro other
    rw [KeyPlace.after_append, hnext]
    split
    · next heq => simp [heq, hfresh]
    · next hne => simpa [hne, hmem] using h.mem_waiting other
  · intro other
    rw [KeyPlace.after_append, hnext]
    split
    · next heq => simp [heq]
    · next hne => simpa [hne] using h.mem_in_flight other
  · intro other
    rw [KeyPlace.after_append, hnext]
    split
    · next heq => simp [heq, KeyPlace.Pending]
    · next hne => simpa [hne] using h.mem_dirty other
  · rw [List.filterMap_append, KeyPlace.joined_from_append, ← h.order, hwaiting]
    simp [KeyPlace.joined?, QueueEvent.addedKey?, QueueEvent.takenKey?, QueueEvent.releasedKey?]

/-- Taking a key back is what its event tells. -/
theorem release (h : Tracked events queue) (hopen : queue.shuttingDown = false)
    (hheld : key ∈ queue.inFlight) : Tracked (events ++ [.released key]) (queue.release key) := by
  have hnext (other : String) : (KeyPlace.after events other).next other (.released key) =
      if other = key then (KeyPlace.after events key).whenReleased
      else KeyPlace.after events other := by
    by_cases heq : other = key
    · simp [KeyPlace.next, heq, QueueEvent.addedKey?, QueueEvent.takenKey?,
        QueueEvent.releasedKey?]
    · simp [KeyPlace.next, heq, QueueEvent.addedKey?, QueueEvent.takenKey?,
        QueueEvent.releasedKey?, Ne.symm heq]
  have hjoined : KeyPlace.joined? events (.released key) =
      if KeyPlace.after events key = .readded then some key else none := by
    simp [KeyPlace.joined?, QueueEvent.addedKey?, QueueEvent.releasedKey?, Option.filter]
  have hplace := (h.mem_in_flight key).1 hheld
  obtain ⟨hrelease, hdirty, -⟩ | ⟨hrelease, hclean⟩ := release_cases queue key
  -- the key was added again, and joins
  · replace hplace : KeyPlace.after events key = .readded :=
      hplace.resolve_left fun hplace => by simp_all [h.mem_dirty, KeyPlace.Pending]
    rw [hrelease]
    refine ⟨?_, ?_, ?_, ?_⟩
    · intro other
      rw [KeyPlace.after_append, hnext, List.mem_append, List.mem_singleton, h.mem_waiting]
      split <;> simp_all [KeyPlace.whenReleased]
    · intro other
      rw [KeyPlace.after_append, hnext, List.mem_filter, h.mem_in_flight]
      split <;> simp_all [KeyPlace.whenReleased]
    · intro other
      rw [KeyPlace.after_append, hnext, h.mem_dirty]
      split <;> simp_all [KeyPlace.whenReleased, KeyPlace.Pending]
    · rw [List.filterMap_append, KeyPlace.joined_from_append, ← h.order]
      simp [hjoined, hplace, QueueEvent.takenKey?]
  -- the key was not added again, and becomes idle
  · replace hplace : KeyPlace.after events key = .held :=
      hplace.resolve_right fun hplace => hclean hopen ((h.mem_dirty key).2 (.inr hplace))
    rw [hrelease]
    refine ⟨?_, ?_, ?_, ?_⟩
    · intro other
      rw [KeyPlace.after_append, hnext, h.mem_waiting]
      split <;> simp_all [KeyPlace.whenReleased]
    · intro other
      rw [KeyPlace.after_append, hnext, List.mem_filter, h.mem_in_flight]
      split <;> simp_all [KeyPlace.whenReleased]
    · intro other
      rw [KeyPlace.after_append, hnext, h.mem_dirty]
      split <;> simp_all [KeyPlace.whenReleased, KeyPlace.Pending]
    · rw [List.filterMap_append, KeyPlace.joined_from_append, ← h.order]
      simp [hjoined, hplace, QueueEvent.takenKey?]

/-- Adding a key with a delay is what is seen of it. -/
theorem add_after (h : Tracked events queue) (hopen : queue.shuttingDown = false)
    (key : String) (delay : Duration) :
    Tracked (events ++ StaffedQueue.observeAfter queue key delay) (queue.addAfter key delay) := by
  unfold StaffedQueue.observeAfter
  obtain ⟨hadd, hzero⟩ | ⟨-, -, hshut⟩ | ⟨hadd, hzero, -⟩ := add_after_cases queue key delay
  · rw [hadd, if_pos hzero]
    exact h.add hopen rfl
  · simp [hopen] at hshut
  · rw [hadd, if_neg hzero, if_neg (by simp [hopen])]
    exact (h.of_same queue.limiter _ queue.now).neutral rfl rfl rfl

end Tracked

/-! ## Time -/

variable {queue : WorkQueue}

@[simp] theorem add_after_now (queue : WorkQueue) (key : String) (delay : Duration) :
    (queue.addAfter key delay).now = queue.now := by
  obtain ⟨h, -⟩ | ⟨h, -⟩ | ⟨h, -⟩ := add_after_cases queue key delay
  · rw [h, add_now]
  · rw [h]
  · rw [h]

@[simp] theorem release_now (queue : WorkQueue) (key : String) :
    (queue.release key).now = queue.now := by
  obtain ⟨h, -⟩ | ⟨h, -⟩ := release_cases queue key <;> rw [h]

@[simp] theorem release_delayed (queue : WorkQueue) (key : String) :
    (queue.release key).delayed = queue.delayed := by
  obtain ⟨h, -⟩ | ⟨h, -⟩ := release_cases queue key <;> rw [h]

theorem take_now_delayed {key : String} {next : WorkQueue} (h : queue.take? = some (key, next)) :
    next.now = queue.now ∧ next.delayed = queue.delayed := by
  obtain ⟨rest, -, rfl⟩ := take_eq_some h
  exact ⟨rfl, rfl⟩

end WorkQueue

namespace StaffedQueue

variable {backoff : Backoff} {events : List QueueEvent} {state next : StaffedQueue}
  {action : QueueAction}

/-- What is seen of a key that is added with a delay takes no time. -/
theorem clock_observe_after (queue : WorkQueue) (key : String) (delay : Duration) :
    QueueEvent.clock (observeAfter queue key delay) = 0 := by
  unfold observeAfter
  split_ifs <;> rfl

/-- A key that is added with a delay leaves the time, and is kept exactly if it is seen to be
postponed. -/
theorem add_after_delayed (queue : WorkQueue) (key : String) (delay : Duration) :
    (queue.addAfter key delay).delayed =
        queue.delayed ++ (observeAfter queue key delay).filterMap QueueEvent.postponedEntry? ∧
      (observeAfter queue key delay).filterMap QueueEvent.maturedEntry? = [] := by
  unfold observeAfter
  obtain ⟨h, hzero⟩ | ⟨h, hzero, hshut⟩ | ⟨h, hzero, hopen⟩ :=
    WorkQueue.add_after_cases queue key delay
  · simp [h, hzero, QueueEvent.postponedEntry?, QueueEvent.maturedEntry?]
  · simp [h, hzero, hshut]
  · simp [h, hzero, hopen, QueueEvent.postponedEntry?, QueueEvent.maturedEntry?]

/-- The clock of a queue goes on by the time that is seen to pass. -/
theorem act_now (hact : state.act? action = some next) :
    next.queue.now = state.queue.now + QueueEvent.clock (state.observe action) := by
  cases action with
  | add | forget | elapse | shutDown =>
    cases hact
    simp [mapQueue, observe, QueueEvent.clock, QueueEvent.nanos, WorkQueue.forget,
      WorkQueue.shutDown]
  | addAfter key delay =>
    cases hact
    simp [mapQueue, observe, clock_observe_after]
  | addRateLimited key =>
    cases hact
    simp [mapQueue, observe, clock_observe_after, WorkQueue.addRateLimited]
  | fire entry =>
    simp only [act?, Option.ite_none_right_eq_some, Option.some.injEq] at hact
    obtain ⟨-, rfl⟩ := hact
    simp [mapQueue, observe, QueueEvent.clock, QueueEvent.nanos, WorkQueue.fire]
  | take worker =>
    simp only [act?] at hact
    split at hact
    · next htake =>
      cases hact
      simp [observe, htake, QueueEvent.clock, QueueEvent.nanos,
        (WorkQueue.take_now_delayed htake).1]
    · next htake =>
      cases hact
      simp only [observe, htake]
      split <;> simp [QueueEvent.clock, QueueEvent.nanos]
  | release worker key =>
    simp only [act?, Option.ite_none_right_eq_some, Option.some.injEq] at hact
    obtain ⟨-, rfl⟩ := hact
    simp [observe, QueueEvent.clock, QueueEvent.nanos]

/-- A delayed key is kept from the moment it is postponed until its entry matures. -/
theorem act_delayed (hact : state.act? action = some next) :
    (state.queue.delayed ++ (state.observe action).filterMap QueueEvent.postponedEntry?).Perm
      ((state.observe action).filterMap QueueEvent.maturedEntry? ++ next.queue.delayed) := by
  cases action with
  | add | forget | elapse | shutDown =>
    cases hact
    simp [mapQueue, observe, List.filterMap_cons, QueueEvent.postponedEntry?,
      QueueEvent.maturedEntry?, WorkQueue.forget, WorkQueue.shutDown]
  | addAfter key delay =>
    cases hact
    obtain ⟨hdelayed, hmatured⟩ := add_after_delayed state.queue key delay
    simp [mapQueue, observe, hdelayed, hmatured]
  | addRateLimited key =>
    cases hact
    obtain ⟨hdelayed, hmatured⟩ := add_after_delayed
      { state.queue with limiter := (state.queue.limiter.record key).2 } key
      (state.queue.limiter.record key).1
    simp only [mapQueue, observe, WorkQueue.addRateLimited]
    rw [hdelayed]
    exact .of_eq (congrArg (· ++ _) hmatured.symm)
  | fire entry =>
    simp only [act?, Option.ite_none_right_eq_some, Option.some.injEq] at hact
    obtain ⟨⟨hmem, -⟩, rfl⟩ := hact
    simpa [mapQueue, observe, List.filterMap_cons, QueueEvent.postponedEntry?,
      QueueEvent.maturedEntry?, WorkQueue.fire] using List.perm_cons_erase hmem
  | take worker =>
    simp only [act?] at hact
    split at hact
    · next htake =>
      cases hact
      simp [observe, htake, List.filterMap_cons, QueueEvent.postponedEntry?,
        QueueEvent.maturedEntry?, (WorkQueue.take_now_delayed htake).2]
    · next htake =>
      cases hact
      simp only [observe, htake]
      split <;> simp [List.filterMap_cons, QueueEvent.postponedEntry?, QueueEvent.maturedEntry?]
  | release worker key =>
    simp only [act?, Option.ite_none_right_eq_some, Option.some.injEq] at hact
    obtain ⟨-, rfl⟩ := hact
    simp [observe, List.filterMap_cons, QueueEvent.postponedEntry?, QueueEvent.maturedEntry?]

/-- The clock of a queue shows the time that was seen to pass. -/
theorem Run.now_eq (h : Run backoff events state) : state.queue.now = QueueEvent.clock events := by
  induction h with
  | start => rfl
  | step action _ hact ih =>
    rw [act_now hact, ih, QueueEvent.clock_append]

/-- What was postponed has matured or is still delayed, each entry as often as it was created. -/
theorem Run.postponed_perm (h : Run backoff events state) :
    (events.filterMap QueueEvent.postponedEntry?).Perm
      (events.filterMap QueueEvent.maturedEntry? ++ state.queue.delayed) := by
  induction h with
  | start => exact .refl _
  | step action _ hact ih =>
    rw [List.filterMap_append, List.filterMap_append, List.append_assoc]
    refine (ih.append_right _).trans ?_
    rw [List.append_assoc]
    exact (act_delayed hact).append_left _

/-! ## Runs -/

/-- As long as a queue accepts keys, it agrees with what the events tell. -/
theorem Run.tracked (h : Run backoff events state) (hopen : QueueEvent.closed ∉ events) :
    WorkQueue.Tracked events state.queue := by
  induction h with
  | start => exact ⟨by simp [new, WorkQueue.new, KeyPlace.after],
      by simp [new, WorkQueue.new, KeyPlace.after],
      by simp [new, WorkQueue.new, KeyPlace.after, KeyPlace.Pending], rfl⟩
  | @step events state next action hrun hact ih =>
    rw [List.mem_append, not_or] at hopen
    have htracked := ih hopen.1
    -- only an open queue takes every key that is added
    have haccepts : state.queue.shuttingDown = false :=
      Bool.eq_false_iff.2 fun hshut => hopen.1 (hrun.shutting_down_iff.1 hshut)
    cases action with
    | add key =>
      cases hact
      exact htracked.add haccepts rfl
    | addAfter key delay =>
      cases hact
      exact htracked.add_after haccepts key delay
    | addRateLimited key =>
      cases hact
      exact (htracked.of_same (state.queue.limiter.record key).2 state.queue.delayed
        state.queue.now).add_after haccepts key _
    | forget key =>
      cases hact
      rw [show events ++ state.observe (.forget key) = events from List.append_nil events]
      exact htracked.of_same (state.queue.limiter.forget key) state.queue.delayed state.queue.now
    | elapse nanos =>
      cases hact
      exact (htracked.of_same state.queue.limiter state.queue.delayed _).neutral rfl rfl rfl
    | fire entry =>
      simp only [act?, Option.ite_none_right_eq_some, Option.some.injEq] at hact
      obtain ⟨-, rfl⟩ := hact
      exact (htracked.of_same state.queue.limiter (state.queue.delayed.erase entry)
        state.queue.now).add haccepts rfl
    | take worker =>
      simp only [act?] at hact
      split at hact
      · next key queue htake =>
        cases hact
        simpa [observe, htake] using htracked.take hrun.sound.single_flight htake
      · next htake =>
        cases hact
        simpa [observe, htake, haccepts] using htracked
    | release worker key =>
      simp only [act?, Option.ite_none_right_eq_some, Option.some.injEq] at hact
      obtain ⟨hheld, rfl⟩ := hact
      exact htracked.release haccepts
        ((hrun.sound.mem_in_flight key).2 (List.mem_map.2 ⟨_, hheld, rfl⟩))
    | shutDown => exact absurd List.mem_cons_self hopen.2

/-- At most one thing is seen of an action. -/
theorem observe_cases (state : StaffedQueue) (action : QueueAction) :
    state.observe action = [] ∨ ∃ event, state.observe action = [event] := by
  cases action with
  | forget => exact .inl rfl
  | addAfter | addRateLimited =>
    simp only [observe, observeAfter]
    split_ifs <;> simp
  | take =>
    simp only [observe]
    split
    · simp
    · split_ifs <;> simp
  | _ => exact .inr ⟨_, rfl⟩

/-- What holds of every event when it is seen, given what was seen before, holds of all events of
a run. -/
theorem Run.each_event {P : List QueueEvent → QueueEvent → Prop}
    (hP : ∀ {events state action next event}, Run backoff events state →
      state.act? action = some next → state.observe action = [event] → P events event)
    (h : Run backoff events state) {before after : List QueueEvent} {event : QueueEvent}
    (hsplit : events = before ++ event :: after) : P before event := by
  induction h generalizing after with
  | start => simp at hsplit
  | @step events state next action hrun hact ih =>
    -- the event was seen in the last step, or the split is one of the events before it
    obtain hobserve | ⟨last, hobserve⟩ := observe_cases state action
    · rw [hobserve, List.append_nil] at hsplit
      exact ih hsplit
    · rw [hobserve] at hsplit
      rcases List.eq_nil_or_concat after with rfl | ⟨init, final, rfl⟩
      · obtain ⟨rfl, hlast⟩ := List.append_inj' hsplit rfl
        cases hlast
        exact hP hrun hact hobserve
      · rw [List.concat_eq_append, ← List.cons_append, ← List.append_assoc] at hsplit
        exact ih (List.append_inj' hsplit rfl).1

/-- A worker that is seen to take a key takes the first one that waits. -/
theorem take_of_observe {action : QueueAction} {key : String}
    (h : state.observe action = [.taken key]) : ∃ queue, state.queue.take? = some (key, queue) := by
  cases action with
  | take worker =>
    simp only [observe] at h
    split at h
    · next taken queue htake =>
      cases h
      exact ⟨queue, htake⟩
    · split_ifs at h
      cases h
  | addAfter key delay | addRateLimited key =>
    simp only [observe, observeAfter] at h
    split_ifs at h <;> cases h
  | _ => cases h

/-- An entry that is seen to be postponed is due when its delay has passed, or after thirty years if
the delay is longer. -/
theorem due_of_observe {action : QueueAction} {entry : DelayedKey} {delay : Duration}
    (h : state.observe action = [.postponed entry delay]) :
    entry.due = state.queue.now + min delay.nanos WorkQueue.longestDelay := by
  cases action with
  | addAfter key delay | addRateLimited key =>
    simp only [observe, observeAfter] at h
    split_ifs at h
    · cases h
    · cases h
      rfl
  | take worker =>
    simp only [observe] at h
    split at h
    · cases h
    · split_ifs at h
      cases h
  | _ => cases h

/-- An entry that is seen to mature is due. -/
theorem due_le_of_observe {action : QueueAction} (hact : state.act? action = some next)
    {entry : DelayedKey} (h : state.observe action = [.matured entry]) :
    entry.due ≤ state.queue.now := by
  cases action with
  | fire fired =>
    cases h
    simp only [act?, Option.ite_none_right_eq_some] at hact
    exact hact.1.2
  | addAfter key delay | addRateLimited key =>
    simp only [observe, observeAfter] at h
    split_ifs at h <;> cases h
  | take worker =>
    simp only [observe] at h
    split at h
    · cases h
    · split_ifs at h
      cases h
  | _ => cases h

/-- A key that is handed out was added since it was handed out before. -/
theorem Run.taken_origin (h : Run backoff events state) {before after : List QueueEvent}
    {key : String} (hsplit : events = before ++ .taken key :: after)
    (hopen : QueueEvent.closed ∉ before) :
    ∃ first event last, before = first ++ event :: last ∧ event.addedKey? = some key ∧
      .taken key ∉ last := by
  refine h.each_event (P := fun before event => event = .taken key → .closed ∉ before →
    ∃ first event last, before = first ++ event :: last ∧ event.addedKey? = some key ∧
      .taken key ∉ last) ?_ hsplit rfl hopen
  intro events state action next event hrun hact hobserve htaken hopen
  subst htaken
  obtain ⟨queue, htake⟩ := take_of_observe hobserve
  obtain ⟨rest, hwaiting, -⟩ := WorkQueue.take_eq_some htake
  refine KeyPlace.added_of_pending (.inl ?_)
  exact ((hrun.tracked hopen).mem_waiting key).1 (hwaiting ▸ List.mem_cons_self)

/-- An entry is due when its delay has passed since it was postponed, or after thirty years if the
delay is longer. -/
theorem Run.postponed_due (h : Run backoff events state) {before after : List QueueEvent}
    {entry : DelayedKey} {delay : Duration}
    (hsplit : events = before ++ .postponed entry delay :: after) :
    entry.due = QueueEvent.clock before + min delay.nanos WorkQueue.longestDelay := by
  refine h.each_event (P := fun before event => event = .postponed entry delay →
    entry.due = QueueEvent.clock before + min delay.nanos WorkQueue.longestDelay) ?_ hsplit rfl
  intro events state action next event hrun hact hobserve hpostponed
  subst hpostponed
  rw [due_of_observe hobserve, hrun.now_eq]

/-- An entry matures no sooner than it is due. -/
theorem Run.matured_due (h : Run backoff events state) {before after : List QueueEvent}
    {entry : DelayedKey} (hsplit : events = before ++ .matured entry :: after) :
    entry.due ≤ QueueEvent.clock before := by
  refine h.each_event (P := fun before event => event = .matured entry →
    entry.due ≤ QueueEvent.clock before) ?_ hsplit rfl
  intro events state action next event hrun hact hobserve hmatured
  subst hmatured
  rw [← hrun.now_eq]
  exact due_le_of_observe hact hobserve

/-- A key that was added was handed out since, or waits, or is held and dirty. -/
theorem Run.added_kept (h : Run backoff events state) (hopen : QueueEvent.closed ∉ events)
    {before after : List QueueEvent} {event : QueueEvent} {key : String}
    (hsplit : events = before ++ event :: after) (hadded : event.addedKey? = some key) :
    .taken key ∈ after ∨ key ∈ state.queue.waiting ∨
      (key ∈ state.queue.inFlight ∧ key ∈ state.queue.dirty) := by
  have htracked := h.tracked hopen
  refine or_iff_not_imp_left.2 fun htaken => ?_
  -- the key became pending with the event, and only a taking could have ended this
  have hpending : (KeyPlace.after events key).Pending := by
    rw [hsplit, KeyPlace.after, List.foldl_append, List.foldl_cons]
    exact (KeyPlace.pending_next_of_added hadded _).foldl htaken
  obtain hplace | hplace := hpending
  · exact .inl ((htracked.mem_waiting key).2 hplace)
  · exact .inr ⟨(htracked.mem_in_flight key).2 (.inr hplace),
      (htracked.mem_dirty key).2 (.inr hplace)⟩

/-- A key that was postponed was added since by its entry, or is still delayed by it. -/
theorem Run.postponed_kept (h : Run backoff events state) {before after : List QueueEvent}
    {entry : DelayedKey} {delay : Duration}
    (hsplit : events = before ++ .postponed entry delay :: after) (hdelay : delay.nanos ≠ 0) :
    .matured entry ∈ after ∨ entry ∈ state.queue.delayed := by
  have hpostponed : entry ∈ events.filterMap QueueEvent.postponedEntry? :=
    List.mem_filterMap.2 ⟨.postponed entry delay, by simp [hsplit], rfl⟩
  rcases List.mem_append.1 (h.postponed_perm.mem_iff.1 hpostponed) with hmatured | hdelayed
  · obtain ⟨event, hevent, heq⟩ := List.mem_filterMap.1 hmatured
    obtain rfl : event = .matured entry := by
      cases event <;> simp_all [QueueEvent.maturedEntry?]
    rw [hsplit] at hevent
    rcases List.mem_append.1 hevent with hbefore | hafter
    -- no entry matures before it is due, and this one is not due when it is postponed
    · obtain ⟨first, last, hfirst⟩ := List.append_of_mem hbefore
      have hmature : events = first ++ .matured entry ::
          (last ++ .postponed entry delay :: after) := by simp [hsplit, hfirst]
      have hearly := h.matured_due hmature
      have hdue := h.postponed_due hsplit
      rw [hfirst, QueueEvent.clock_append] at hdue
      have hlongest : 0 < WorkQueue.longestDelay := by decide
      omega
    · exact .inl ((List.mem_cons.1 hafter).resolve_left nofun)
  · exact .inr hdelayed

/-- Every key that is added is handed out, once for the additions that meet it before, and nothing
else is. -/
structure Delivered (events : List QueueEvent) (queue : WorkQueue) : Prop where
  /-- A key that was added was handed out since, or waits, or is held and dirty. -/
  not_lost : ∀ before event after key, events = before ++ event :: after →
    event.addedKey? = some key →
    .taken key ∈ after ∨ key ∈ queue.waiting ∨ (key ∈ queue.inFlight ∧ key ∈ queue.dirty)
  /-- A key that is handed out was added, and not handed out since. -/
  not_invented : ∀ before after key, events = before ++ .taken key :: after →
    ∃ first event last, before = first ++ event :: last ∧ event.addedKey? = some key ∧
      .taken key ∉ last
  /-- Keys are handed out in the order in which they joined those that wait. -/
  order : events.filterMap QueueEvent.takenKey? ++ queue.waiting = KeyPlace.joinedFrom [] events
  /-- A delayed key is due when its delay has passed, or after thirty years if it is longer. -/
  due : ∀ before entry delay after, events = before ++ .postponed entry delay :: after →
    entry.due = QueueEvent.clock before + min delay.nanos WorkQueue.longestDelay
  /-- A delayed key is not added before it is due. -/
  not_early : ∀ before entry after, events = before ++ .matured entry :: after →
    entry.due ≤ QueueEvent.clock before
  /-- Each delayed key is added once, and is kept until then. -/
  once : (events.filterMap QueueEvent.postponedEntry?).Perm
    (events.filterMap QueueEvent.maturedEntry? ++ queue.delayed)

/-- A queue that is not shut down delivers every key that is added to it. -/
theorem run_delivered (h : Run backoff events state) (hopen : QueueEvent.closed ∉ events) :
    Delivered events state.queue := by
  refine ⟨?_, ?_, (h.tracked hopen).order, ?_, ?_, h.postponed_perm⟩
  · intro before event after key hsplit hadded
    exact h.added_kept hopen hsplit hadded
  · intro before after key hsplit
    refine h.taken_origin hsplit fun hmem => hopen ?_
    rw [hsplit]
    exact List.mem_append_left _ hmem
  · intro before entry delay after hsplit
    exact h.postponed_due hsplit
  · intro before entry after hsplit
    exact h.matured_due hsplit

/-- A delay of a few nanoseconds. -/
def briefly : Duration := ⟨5, by decide⟩

/-- What is seen of a delayed key that comes due while a worker holds it. -/
def redelivery : List QueueEvent :=
  [.added "a", .taken "a", .postponed ⟨"a", 5⟩ briefly, .elapsed 5, .matured ⟨"a", 5⟩,
    .released "a", .taken "a"]

/-- A queue in which a delayed key came due while a worker held it, and was handed out again. -/
def redelivered : StaffedQueue :=
  ⟨{ WorkQueue.new .standard with inFlight := ["a"], now := 5 }, [(1, "a")]⟩

/-- The run to a queue in which a delayed key was handed out again. -/
theorem run_redelivered : Run .standard redelivery redelivered := by
  have hadded : Run .standard _ _ := .step (.add "a") .start rfl
  have hheld := Run.step (.take 0) hadded rfl
  have hpostponed := Run.step (.addAfter "a" briefly) hheld rfl
  have hdue := Run.step (.elapse 5) hpostponed rfl
  have hmatured := Run.step (.fire ⟨"a", 5⟩) hdue rfl
  have hreleased := Run.step (.release 0 "a") hmatured rfl
  exact .step (.take 1) hreleased rfl

/-- A delayed key that comes due while a worker holds it is handed out once more. -/
theorem run_delivered_redelivered :
    Run .standard redelivery redelivered ∧ Delivered redelivery redelivered.queue :=
  ⟨run_redelivered, run_delivered run_redelivered (by decide)⟩

end StaffedQueue

end FunctionOperator
