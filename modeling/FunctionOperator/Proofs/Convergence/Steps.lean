import FunctionOperator.Proofs.Convergence.Invariant
import FunctionOperator.Proofs.Sync.Records
import FunctionOperator.Proofs.Sync.WriteSafety

/-!
# What every step keeps

The invariant of a cluster through every action. Read `Invariant.act` first, which names the lemma
for each action. A step changes the queue, or what the operator knows, or what one worker is at, or
what the API server has; there is one lemma for each of these, and the actions are put together
from them.
-/

namespace FunctionOperator

namespace WorkQueue

variable {queue : WorkQueue}

/-- Adding keys keeps the collections in step. -/
theorem SingleFlight.foldl_add (h : queue.SingleFlight) (keys : List String) :
    (keys.foldl WorkQueue.add queue).SingleFlight := by
  induction keys generalizing queue with
  | nil => exact h
  | cons key keys ih => exact ih (h.add key)

/-- Adding keys changes neither what is held nor whether keys are accepted. -/
theorem foldl_add_frame (keys : List String) (queue : WorkQueue) :
    (keys.foldl add queue).inFlight = queue.inFlight ∧
      (keys.foldl add queue).shuttingDown = queue.shuttingDown := by
  induction keys generalizing queue with
  | nil => exact ⟨rfl, rfl⟩
  | cons key keys ih =>
    obtain ⟨hflight, hshut⟩ := ih (queue.add key)
    exact ⟨hflight.trans (add_in_flight queue key), hshut.trans (add_shutting_down queue key)⟩

/-- Keys that are added are awaited. -/
theorem awaits_foldl_add (hopen : queue.shuttingDown = false) {keys : List String} {key : String}
    (h : key ∈ keys) : (keys.foldl add queue).Awaits key := by
  obtain ⟨first, last, rfl⟩ := List.append_of_mem h
  rw [List.foldl_append, List.foldl_cons]
  refine (awaits_add ?_ key).foldl_add last
  rw [(foldl_add_frame first queue).2, hopen]

end WorkQueue

/-- A worker that ends gives its key back, to a queue that forgot no key. -/
theorem WorkerPool.finish_queue (pool : WorkerPool) (key : String) (result : SyncResult) :
    ∃ before : WorkQueue, (pool.finish key result).queue = before.release key ∧
      (pool.queue.SingleFlight → before.SingleFlight) ∧
      before.inFlight = pool.queue.inFlight ∧ before.shuttingDown = pool.queue.shuttingDown ∧
      ∀ other, pool.queue.Awaits other → before.Awaits other := by
  unfold finish
  cases label result with
  | retry =>
    refine ⟨pool.queue.addRateLimited key, rfl, fun h => h.add_rate_limited key,
      WorkQueue.add_after_in_flight _ _ _, WorkQueue.add_after_shutting_down _ _ _,
      fun other h => WorkQueue.Awaits.add_after ?_ _ _⟩
    exact h
  | success => exact ⟨pool.queue.forget key, rfl, fun h => h.of_same _ _ _, rfl, rfl, fun _ h => h⟩
  | dropped => exact ⟨pool.queue.forget key, rfl, fun h => h.of_same _ _ _, rfl, rfl, fun _ h => h⟩

/-! ## Written ingresses -/

namespace FunctionIngressCaches

variable {caches : FunctionIngressCaches} {primary : FunctionIngress} {space name : String}

/-- What may be written for an admitted function ingress is an ingress of its namespace and name
that records its declared state. -/
theorem MayWrite.records {write : Write} (h : caches.MayWrite primary write)
    (hadmitted : primary.Admitted ⟨some space, name⟩) (hcached : caches.ingresses.Namespaced) :
    ∃ object, (write = .createIngress space object ∨ write = .replaceIngress space object) ∧
      object.metadata.name = some name ∧ object.Records primary := by
  obtain ⟨space', name', hid, hspace, hname, hmetadata⟩ := hadmitted.named.eq_some
  cases hid
  have hdisplay : primary.metadata.displayName = name := by rw [Metadata.displayName, hname]; rfl
  cases h with
  | create hmissing =>
    exact ⟨Ingress.build caches.api (desiredIngress primary), .inl (by rw [hmetadata]; rfl),
      congrArg some hdisplay, Ingress.build_records hadmitted.unmarked⟩
  | @replace existing hget hreplaceable =>
    have hfind : caches.ingresses.find? ⟨some space, name⟩ = some existing := by
      rw [← hcached.get_eq hspace, ← hget, hmetadata, hdisplay]
      rfl
    obtain ⟨space', name', hid, -, hexisting, -⟩ := (hcached _ _ hfind).eq_some
    cases hid
    refine ⟨Ingress.converge caches.api existing (desiredIngress primary),
      .inr (by rw [hmetadata]; rfl), ?_, Ingress.converge_records existing hadmitted.unmarked⟩
    rw [Ingress.converge_metadata]
    exact hexisting

/-- The sync of an admitted function ingress is over, or writes an ingress of its namespace and
name that records its declared state. -/
theorem converge_cases (hadmitted : primary.Admitted ⟨some space, name⟩)
    (hcached : caches.ingresses.Namespaced) :
    (∃ failure, caches.converge primary = .finished (.error failure)) ∨
    caches.converge primary = .finished (.ok .unchanged) ∨
    ∃ write object outcome, (write = .createIngress space object ∨
        write = .replaceIngress space object) ∧
      object.metadata.name = some name ∧ object.Records primary ∧
      (outcome = .created ∨ outcome = .updated) ∧
      caches.converge primary = .attempt write (.finished (.ok outcome)) := by
  obtain ⟨failure, -, -, hstep⟩ | ⟨-, hstep⟩ | ⟨write, outcome, hallowed, houtcome, hstep⟩ :=
    converge_recorded_cases FunctionIngress.kind primary
      ((caches.ingresses.get? (primary.metadata.space.getD "") primary.metadata.displayName).map
        Ingress.metadata) _ _
  · exact .inl ⟨failure, hstep fun outcome => .finished (.ok outcome)⟩
  · exact .inr (.inl (hstep fun outcome => .finished (.ok outcome)))
  · obtain ⟨object, hwrite, hname, hrecords⟩ :=
      (MayWrite.of_allowed hallowed).records hadmitted hcached
    exact .inr (.inr ⟨write, object, outcome, hwrite, hname, hrecords, houtcome,
      hstep fun outcome => .finished (.ok outcome)⟩)

end FunctionIngressCaches

namespace Cluster.Invariant

variable {cluster : Cluster}

/-! ## The queue -/

/-- A change of the queue that forgets no key keeps the invariant. -/
theorem map_queue (h : cluster.Invariant) {change : WorkQueue → WorkQueue}
    (hflight : (change cluster.queue).SingleFlight)
    (haccepts : (change cluster.queue).shuttingDown = false)
    (hheld : (change cluster.queue).inFlight = cluster.queue.inFlight)
    (hawaits : ∀ key, cluster.queue.Awaits key → (change cluster.queue).Awaits key) :
    (cluster.mapQueue change).Invariant := by
  refine { h with
    single_flight := hflight
    accepts := haccepts
    mem_in_flight := ?_
    followed := ?_ }
  · intro key
    show key ∈ (change cluster.queue).inFlight ↔ _
    rw [hheld]
    exact h.mem_in_flight key
  · intro id object hknown
    exact (h.followed id object hknown).keep (hawaits _) (fun _ _ _ => Iff.rfl) rfl rfl

/-- Adding the keys that notifications call for keeps the invariant. -/
theorem add_routes {α : Type} (h : cluster.Invariant) (route? : Notification α → Option String)
    (told : List (Notification α)) : (cluster.mapQueue (·.addRoutes route? told)).Invariant := by
  obtain ⟨hheld, hshut⟩ := WorkQueue.foldl_add_frame (told.filterMap route?) cluster.queue
  exact h.map_queue (h.single_flight.foldl_add _) (hshut.trans h.accepts) hheld
    fun key hawaits => hawaits.foldl_add _

/-- Time that passes keeps the invariant. -/
theorem elapse (h : cluster.Invariant) (nanos : Nat) :
    (cluster.mapQueue fun queue => { queue with now := queue.now + nanos }).Invariant :=
  h.map_queue (h.single_flight.of_same _ _ _) h.accepts rfl fun _ hawaits => hawaits

/-- A delayed key that is added keeps the invariant. -/
theorem fire (h : cluster.Invariant) (entry : DelayedKey) :
    (cluster.mapQueue (·.fire entry)).Invariant :=
  h.map_queue (h.single_flight.fire entry) ((WorkQueue.add_shutting_down _ _).trans h.accepts)
    (WorkQueue.add_in_flight _ _) fun _ hawaits => hawaits.fire h.accepts entry

/-! ## The function ingresses -/

/-- What the API server has of function ingresses, and what the operator will learn of them, may
change as long as all of them are admitted. -/
theorem change_primaries (h : cluster.Invariant) {primaries : Store FunctionIngress}
    {feed : List (WatchEvent FunctionIngress)}
    (hprimaries : ∀ id object, primaries.find? id = some object → object.Admitted id)
    (hfeed : ∀ event ∈ feed, ∃ id object, FunctionIngress.Admitted object id ∧
      (event = .applied object ∨ event = .deleted object)) :
    { cluster with primaries := primaries, primaryFeed := feed }.Invariant :=
  { h with
    primaries := hprimaries
    primary_feed := hfeed
    followed := fun id object hknown => (h.followed id object hknown).keep (fun hawaits => hawaits)
      (fun _ _ _ => Iff.rfl) rfl rfl }

/-- A function ingress that is declared keeps the invariant. -/
theorem declare (h : cluster.Invariant) {id : ObjectId} {object : FunctionIngress}
    (hadmitted : object.Admitted id) :
    { cluster with
      primaries := cluster.primaries.insert id object
      primaryFeed := cluster.primaryFeed ++ [WatchEvent.applied object] }.Invariant := by
  refine h.change_primaries ?_ ?_
  · intro other found hfind
    rw [Store.find_insert] at hfind
    split at hfind
    · next heq =>
      cases hfind
      exact heq ▸ hadmitted
    · exact h.primaries other found hfind
  · intro event hevent
    rcases List.mem_append.1 hevent with hevent | hevent
    · exact h.primary_feed event hevent
    · exact ⟨id, object, hadmitted, .inl (List.mem_singleton.1 hevent)⟩

/-- A function ingress that is withdrawn keeps the invariant. -/
theorem withdraw (h : cluster.Invariant) {id : ObjectId} {object : FunctionIngress}
    (hfind : cluster.primaries.find? id = some object) :
    { cluster with
      primaries := cluster.primaries.erase id
      primaryFeed := cluster.primaryFeed ++ [WatchEvent.deleted object] }.Invariant := by
  refine h.change_primaries ?_ ?_
  · intro other found hfound
    rw [Store.find_erase] at hfound
    split at hfound
    · cases hfound
    · exact h.primaries other found hfound
  · intro event hevent
    rcases List.mem_append.1 hevent with hevent | hevent
    · exact h.primary_feed event hevent
    · exact ⟨id, object, h.primaries id object hfind, .inr (List.mem_singleton.1 hevent)⟩

/-- What the operator knows of function ingresses may change as long as all that it knows are
admitted and followed. -/
theorem change_known_primaries (h : cluster.Invariant) (store : Store FunctionIngress)
    (hadmitted : ∀ id object, store.find? id = some object → object.Admitted id)
    (hfollowed : ∀ id object, store.find? id = some object → cluster.Followed id object) :
    { cluster with loop := { cluster.loop with view := { cluster.loop.view with
      primaries := { cluster.loop.view.primaries with store := store } } } }.Invariant :=
  { h with
    known_primaries := hadmitted
    followed := fun id object hknown => (hfollowed id object hknown).keep
      (fun hawaits => hawaits) (fun _ _ _ => Iff.rfl) rfl rfl }

/-- The function ingresses that the operator knows have a namespace. -/
theorem known_namespaced (h : cluster.Invariant) : cluster.knownPrimaries.Namespaced :=
  fun id object hfind => (h.known_primaries id object hfind).named

/-- The cached version of a function ingress is the known one of its name. -/
theorem cached_eq (h : cluster.Invariant) {id : ObjectId} {object : FunctionIngress}
    (hnamed : object.metadata.Named id) :
    cluster.loop.view.primaries.cached? object = cluster.knownPrimaries.find? id := by
  obtain ⟨space, name, rfl, hspace, hname, hmetadata⟩ := hnamed.eq_some
  show cluster.knownPrimaries.get? (object.metadata.space.getD "") object.metadata.displayName = _
  rw [Metadata.displayName, hname, hmetadata]
  exact h.known_namespaced.get_eq hspace name

/-- A function ingress of which the operator learns is followed: its key is added if it is new or
declares another state. -/
theorem followed_of_learned (h : cluster.Invariant) {id : ObjectId} {object : FunctionIngress}
    (hadmitted : object.Admitted id) :
    (cluster.mapQueue (·.addRoutes primaryRoute?
      [Informer.upsert (cluster.loop.view.primaries.cached? object) object])).Followed id object := by
  rw [h.cached_eq hadmitted.named]
  cases hknown : cluster.knownPrimaries.find? id with
  | none =>
    refine .awaited (WorkQueue.awaits_foldl_add h.accepts ?_)
    simp [Informer.upsert, primaryRoute?]
  | some old =>
    by_cases hchanged : old.desiredStateChanged object = true
    · refine .awaited (WorkQueue.awaits_foldl_add h.accepts ?_)
      simp [Informer.upsert, primaryRoute?, hchanged]
    · have hsame := same_state_of_unchanged (Bool.eq_false_iff.2 hchanged)
      obtain ⟨space, name, hid, -, hkey⟩ := key_of_named hadmitted.named
      obtain ⟨space', name', hid', -, hkey'⟩ := key_of_named (h.known_primaries id old hknown).named
      cases hid.symm.trans hid'
      exact ((h.add_routes primaryRoute? _).followed id old hknown).same_state
        (hkey.trans hkey'.symm) hsame

/-- Learning of a function ingress keeps the invariant. -/
theorem learn_primary (h : cluster.Invariant) {event : WatchEvent FunctionIngress}
    {events : List (WatchEvent FunctionIngress)} (hfeed : cluster.primaryFeed = event :: events)
    {loop : FunctionIngressLoop} (hwatch : cluster.loop.watchPrimary? event = some loop) :
    { cluster with loop := loop, primaryFeed := events }.Invariant := by
  have hlater : ∀ later ∈ events, ∃ id object, FunctionIngress.Admitted object id ∧
      (later = .applied object ∨ later = .deleted object) := fun later hlater =>
    h.primary_feed later (hfeed ▸ List.mem_cons_of_mem _ hlater)
  obtain ⟨id, object, hadmitted, hevent⟩ := h.primary_feed event (hfeed ▸ List.mem_cons_self)
  have hid : (HasMetadata.metadata object).objectId? = some id := hadmitted.named.1
  rcases hevent with rfl | rfl
  · simp only [FunctionIngressLoop.watchPrimary?, Informer.process?, hid, bind, Option.bind,
      pure, Option.some.injEq] at hwatch
    subst hwatch
    -- the key is routed by the version that was cached before
    have hroutes := h.add_routes primaryRoute?
      [Informer.upsert (cluster.loop.view.primaries.cached? object) object]
    have hknown := hroutes.change_known_primaries (cluster.knownPrimaries.insert id object)
      (fun other found hfind => ?_) fun other found hfind => ?_
    · exact hknown.change_primaries h.primaries hlater
    · rw [Store.find_insert] at hfind
      split at hfind
      · next heq =>
        cases hfind
        exact heq ▸ hadmitted
      · exact h.known_primaries other found hfind
    · rw [Store.find_insert] at hfind
      split at hfind
      · next heq =>
        cases hfind
        exact heq ▸ h.followed_of_learned hadmitted
      · exact hroutes.followed other found hfind
  · simp only [FunctionIngressLoop.watchPrimary?, Informer.process?, hid, bind, Option.bind,
      pure, Option.some.injEq] at hwatch
    subst hwatch
    have hroutes := h.add_routes primaryRoute?
      [.removed ((cluster.loop.view.primaries.cached? object).getD object)]
    have hknown := hroutes.change_known_primaries (cluster.knownPrimaries.erase id)
      (fun other found hfind => ?_) fun other found hfind => ?_
    · exact hknown.change_primaries h.primaries hlater
    · rw [Store.find_erase] at hfind
      split at hfind
      · cases hfind
      · exact h.known_primaries other found hfind
    · rw [Store.find_erase] at hfind
      split at hfind
      · cases hfind
      · exact hroutes.followed other found hfind

/-! ## The ingresses -/

/-- What the operator knows of ingresses, and what it will learn of them, may change as long as all
of them have a namespace. -/
theorem change_known_ingresses (h : cluster.Invariant) {store : Store Ingress}
    {feed : List (WatchEvent Ingress)} (hstore : store.Namespaced)
    (hfeed : ∀ event ∈ feed, ∃ id object, object.metadata.Named id ∧ event = .applied object) :
    { cluster with
      loop := { cluster.loop with view := { cluster.loop.view with
        ingresses := { cluster.loop.view.ingresses with store := store } } }
      ingressFeed := feed }.Invariant :=
  { h with
    known_ingresses := hstore
    ingress_feed := hfeed
    followed := fun id object hknown => (h.followed id object hknown).keep (fun hawaits => hawaits)
      (fun _ _ _ => Iff.rfl) rfl rfl }

/-- Learning of an ingress keeps the invariant. -/
theorem learn_ingress (h : cluster.Invariant) {event : WatchEvent Ingress}
    {events : List (WatchEvent Ingress)} (hfeed : cluster.ingressFeed = event :: events)
    {loop : FunctionIngressLoop} (hwatch : cluster.loop.watchIngress? event = some loop) :
    { cluster with loop := loop, ingressFeed := events }.Invariant := by
  obtain ⟨id, object, hnamed, rfl⟩ := h.ingress_feed event (hfeed ▸ List.mem_cons_self)
  have hid : (HasMetadata.metadata object).objectId? = some id := hnamed.1
  simp only [FunctionIngressLoop.watchIngress?, Informer.process?, hid, bind, Option.bind, pure,
    Option.some.injEq] at hwatch
  subst hwatch
  have hroutes := h.add_routes (ownerRoute? FunctionIngress.kind cluster.knownPrimaries)
    [Informer.upsert (cluster.loop.view.ingresses.cached? object) object]
  exact hroutes.change_known_ingresses (h.known_ingresses.insert hnamed) fun later hlater =>
    h.ingress_feed later (hfeed ▸ List.mem_cons_of_mem _ hlater)

/-! ## The workers -/

/-- What a worker that is assigned a job is at. -/
theorem assign_jobs (cluster : Cluster) (worker other : Nat) (job : Option SyncJob) :
    (cluster.assign worker job).jobs other = if other = worker then job else cluster.jobs other :=
  rfl

/-- Taking a key keeps the invariant. -/
theorem take (h : cluster.Invariant) {worker : Nat} (hfree : cluster.jobs worker = none)
    {key : String} {queue : WorkQueue} (htake : cluster.queue.take? = some (key, queue)) :
    ((cluster.mapQueue fun _ => queue).assign worker (some ⟨key, .taken⟩)).Invariant := by
  -- a waiting key is not held, so no worker is at it
  have hidle : ∀ other job, cluster.jobs other = some job → job.key ≠ key := by
    rintro other job hjob rfl
    obtain ⟨rest, hwaiting, -⟩ := WorkQueue.take_eq_some htake
    exact h.single_flight.waiting_idle job.key (hwaiting ▸ List.mem_cons_self)
      ((h.mem_in_flight job.key).2 ⟨other, job, hjob, rfl⟩)
  have hjobs (other : Nat) (job : SyncJob) :
      ((cluster.mapQueue fun _ => queue).assign worker (some ⟨key, .taken⟩)).jobs other = some job ↔
        other = worker ∧ job = ⟨key, .taken⟩ ∨ cluster.jobs other = some job := by
    rw [assign_jobs]
    split
    · next heq =>
      subst heq
      simp [hfree, eq_comm]
    · next hne => simp [hne, mapQueue]
  refine { h with
    single_flight := h.single_flight.take htake
    accepts := (WorkQueue.take_shutting_down htake).trans h.accepts
    mem_in_flight := ?_
    one_worker := ?_
    aimed := ?_
    followed := ?_ }
  · intro other
    simp only [hjobs]
    obtain ⟨rest, -, rfl⟩ := WorkQueue.take_eq_some htake
    show other ∈ key :: cluster.queue.inFlight.filter (· != key) ↔ _
    by_cases heq : other = key
    · subst heq
      exact iff_of_true List.mem_cons_self ⟨worker, ⟨other, .taken⟩, .inl ⟨rfl, rfl⟩, rfl⟩
    · rw [List.mem_cons, List.mem_filter, h.mem_in_flight]
      constructor
      · rintro (hother | ⟨⟨holder, job, hjob, hkey⟩, -⟩)
        · exact absurd hother heq
        · exact ⟨holder, job, .inr hjob, hkey⟩
      · rintro ⟨holder, job, ⟨-, rfl⟩ | hjob, hkey⟩
        · exact absurd hkey.symm heq
        · exact .inr ⟨⟨holder, job, hjob, hkey⟩, by simpa using heq⟩
  · intro first second job other hfirst hsecond hkey
    rw [hjobs] at hfirst hsecond
    rcases hfirst with ⟨rfl, rfl⟩ | hfirst
    · rcases hsecond with ⟨rfl, -⟩ | hsecond
      · rfl
      · exact absurd hkey.symm (hidle second other hsecond)
    · rcases hsecond with ⟨rfl, rfl⟩ | hsecond
      · exact absurd hkey (hidle first job hfirst)
      · exact h.one_worker first second job other hfirst hsecond hkey
  · intro other job hjob
    rw [hjobs] at hjob
    rcases hjob with ⟨-, rfl⟩ | hjob
    · exact .taken
    · exact h.aimed other job hjob
  · intro id object hknown
    by_cases hkey : Key.ofMetadata object.metadata = key
    · exact .served ((hjobs worker _).2 (.inl ⟨rfl, by rw [hkey]⟩)) .taken
    · refine (h.followed id object hknown).keep (fun hawaits => hawaits.take htake hkey)
        (fun other job hjob => ?_) rfl rfl
      rw [hjobs]
      refine or_iff_right ?_
      rintro ⟨-, rfl⟩
      exact hkey hjob.symm

/-- A worker that goes on with its key keeps the invariant, if it still aims at what the key names
and goes on to serve what it served. -/
theorem move (h : cluster.Invariant) {worker : Nat} {key : String} {phase next : SyncPhase}
    (hjob : cluster.jobs worker = some ⟨key, phase⟩) (haimed : next.Aimed key)
    (hserves : ∀ id object, cluster.knownPrimaries.find? id = some object →
      Key.ofMetadata object.metadata = key → phase.Serves (cluster.ingresses.find? id) object →
      next.Serves (cluster.ingresses.find? id) object) :
    (cluster.assign worker (some ⟨key, next⟩)).Invariant := by
  have hkeys (other : Nat) (job : SyncJob)
      (hother : (cluster.assign worker (some ⟨key, next⟩)).jobs other = some job) :
      ∃ old, cluster.jobs other = some old ∧ old.key = job.key := by
    rw [assign_jobs] at hother
    split at hother
    · next heq =>
      cases hother
      exact ⟨⟨key, phase⟩, heq ▸ hjob, rfl⟩
    · exact ⟨job, hother, rfl⟩
  refine { h with
    mem_in_flight := ?_
    one_worker := ?_
    aimed := ?_
    followed := ?_ }
  · intro other
    refine (h.mem_in_flight other).trans ⟨?_, ?_⟩
    · rintro ⟨holder, job, hholder, hkey⟩
      by_cases heq : holder = worker
      · subst heq
        rw [hjob, Option.some.injEq] at hholder
        subst hholder
        exact ⟨holder, ⟨key, next⟩, by rw [assign_jobs, if_pos rfl], hkey⟩
      · exact ⟨holder, job, by rw [assign_jobs, if_neg heq, hholder], hkey⟩
    · rintro ⟨holder, job, hholder, hkey⟩
      obtain ⟨old, hold, hsame⟩ := hkeys holder job hholder
      exact ⟨holder, old, hold, hsame.trans hkey⟩
  · intro first second job other hfirst hsecond hkey
    obtain ⟨old, hold, hsame⟩ := hkeys first job hfirst
    obtain ⟨old', hold', hsame'⟩ := hkeys second other hsecond
    exact h.one_worker first second old old' hold hold' (by rw [hsame, hsame', hkey])
  · intro other job hother
    rw [assign_jobs] at hother
    split at hother
    · cases hother
      exact haimed
    · exact h.aimed other job hother
  -- a key that became dirty meanwhile stays so, whatever the worker does
  · intro id object hknown
    by_cases hkey : Key.ofMetadata object.metadata = key
    · subst hkey
      rcases (h.followed id object hknown).served_by h hjob with hawaits | hserved
      · exact .awaited hawaits
      · refine .served (by rw [assign_jobs, if_pos rfl]) (hserves id object hknown rfl hserved)
    · refine (h.followed id object hknown).keep (fun hawaits => hawaits) (fun other job hother => ?_)
        rfl rfl
      rw [assign_jobs]
      split
      · next heq =>
        subst heq
        rw [hjob]
        constructor <;> rintro ⟨⟩ <;> exact absurd hother.symm hkey
      · exact Iff.rfl

/-- Looking for a function ingress keeps the invariant. -/
theorem look (h : cluster.Invariant) {worker : Nat} {key : String}
    (hjob : cluster.jobs worker = some ⟨key, .taken⟩) :
    (cluster.assign worker (some ⟨key, cluster.look key⟩)).Invariant := by
  cases hsplit : Key.split key with
  | error failure =>
    have hlook : cluster.look key = .reading none (.finished (.error failure)) := by
      rw [Cluster.look, hsplit]
    rw [hlook]
    exact h.move hjob .finished fun _ _ _ _ _ => .finished nofun
  | ok parts =>
    obtain ⟨space, name⟩ := parts
    by_cases hspace : space = ""
    · subst hspace
      have hlook : cluster.look key = .reading none (.finished (.ok .missing)) := by
        simp only [Cluster.look, hsplit, h.known_namespaced.get_empty name]
      rw [hlook]
      refine h.move hjob .finished fun id object hknown hkey _ => ?_
      have hid := id_of_split (h.known_primaries id object hknown).named (hkey ▸ hsplit)
      obtain ⟨-, other, hother, hne⟩ := (h.known_primaries id object hknown).named
      rw [hid] at hother
      cases hother
      exact absurd rfl hne
    · have hget := h.known_namespaced.get_eq hspace name
      cases hfind : cluster.knownPrimaries.find? ⟨some space, name⟩ with
      | none =>
        have hlook : cluster.look key = .reading none (.finished (.ok .missing)) := by
          simp only [Cluster.look, hsplit, hget, hfind]
        rw [hlook]
        refine h.move hjob .finished fun id object hknown hkey _ => ?_
        have hid := id_of_split (h.known_primaries id object hknown).named (hkey ▸ hsplit)
        rw [hid, hfind] at hknown
        cases hknown
      | some primary =>
        have hlook : cluster.look key = .found primary := by
          simp only [Cluster.look, hsplit, hget, hfind]
        rw [hlook]
        refine h.move hjob (.found hsplit (h.known_primaries _ _ hfind))
          fun id object hknown hkey _ => ?_
        have hid := id_of_split (h.known_primaries id object hknown).named (hkey ▸ hsplit)
        rw [hid, hfind] at hknown
        cases hknown
        exact .found ⟨rfl, rfl⟩

/-- Reading the cached ingress keeps the invariant. -/
theorem read (h : cluster.Invariant) {worker : Nat} {key : String} {primary : FunctionIngress}
    (hjob : cluster.jobs worker = some ⟨key, .found primary⟩) :
    (cluster.assign worker (some ⟨key, cluster.read primary⟩)).Invariant := by
  cases h.aimed worker _ hjob with
  | @found _ space name hsplit hadmitted =>
    have hid : primary.metadata.objectId?.bind cluster.ingresses.find? =
        cluster.ingresses.find? ⟨some space, name⟩ := by
      rw [hadmitted.named.1]
      rfl
    have hcached : cluster.loop.view.caches.ingresses.Namespaced := h.known_ingresses
    rw [Cluster.read, hid]
    obtain ⟨failure, hsync⟩ | hsync | ⟨write, object, outcome, hwrite, hname, hrecords, houtcome,
      hsync⟩ := FunctionIngressCaches.converge_cases hadmitted hcached
    · rw [hsync]
      exact h.move hjob .finished fun _ _ _ _ _ => .finished nofun
    -- the cached ingress records the state; whether the current one does is left open
    · rw [hsync]
      refine h.move hjob .finished fun id other hknown hkey _ => .finished ?_
      rw [id_of_split (h.known_primaries id other hknown).named (hkey ▸ hsplit)]
      rintro _ ⟨⟩
      exact ⟨nofun, by simp⟩
    · rw [hsync]
      obtain ⟨-, other, hother, hspace⟩ := hadmitted.named
      cases hother
      refine h.move hjob (.writing hsplit hspace hname hwrite) fun id other _ _ hserves => ?_
      cases hserves with
      | found hsame => exact .writing hwrite ((hsame.records_iff _).1 hrecords) houtcome

/-! ## Writes -/

/-- A write of an ingress stores it if the API server performs it. -/
theorem perform_eq_some {write : Write} {space name : String} {object : Ingress} {next : Cluster}
    (hwrite : write = .createIngress space object ∨ write = .replaceIngress space object)
    (hname : object.metadata.name = some name) (hperform : cluster.perform? write = some next) :
    next = cluster.store space name object := by
  rcases hwrite with rfl | rfl
  · simp only [perform?, hname, bind, Option.bind_some] at hperform
    split at hperform
    · cases hperform
    · cases hperform
      rfl
  · simp only [perform?, hname, bind, Option.bind_some, Option.bind_eq_some_iff] at hperform
    obtain ⟨stored, -, hperform⟩ := hperform
    split at hperform
    · cases hperform
      rfl
    · cases hperform

/-- What the API server stores has the name in its key. -/
theorem stamp_object_id (cluster : Cluster) (space : String) {name : String} {object : Ingress}
    (hname : object.metadata.name = some name) :
    (cluster.stamp space object).metadata.objectId? = some ⟨some space, name⟩ := by
  show object.metadata.name.map _ = _
  rw [hname]
  rfl

/-- What the API server then has is the written ingress, up to its version. -/
theorem store_records {space name : String} {object : Ingress} {primary : FunctionIngress}
    (hrecords : object.Records primary) :
    RecordedIn ((cluster.store space name object).ingresses.find? ⟨some space, name⟩) primary := by
  refine ⟨cluster.stamp space object, ?_, hrecords⟩
  show (cluster.ingresses.insert ⟨some space, name⟩ (cluster.stamp space object)).find? _ = _
  rw [Store.find_insert, if_pos rfl]

/-- Storing what a worker is about to write keeps the invariant. -/
theorem store (h : cluster.Invariant) {worker : Nat} {key : String} {seen : Option Ingress}
    {write : Write} {resume : Except ApiFailure Unit → Sync} {space name : String}
    {object : Ingress}
    (hjob : cluster.jobs worker = some ⟨key, .reading seen (.writing write resume)⟩)
    (hsplit : Key.split key = .ok (space, name)) (hspace : space ≠ "")
    (hname : object.metadata.name = some name) :
    (cluster.store space name object).Invariant := by
  refine { h with
    ingress_feed := ?_
    followed := ?_ }
  · intro event hevent
    rcases List.mem_append.1 hevent with hevent | hevent
    · exact h.ingress_feed event hevent
    · exact ⟨_, _, ⟨stamp_object_id cluster space hname, space, rfl, hspace⟩,
        List.mem_singleton.1 hevent⟩
  · intro id primary hknown
    have hfollowed := h.followed id primary hknown
    -- what the worker does not aim at has another name, and keeps its ingress
    by_cases hkey : Key.ofMetadata primary.metadata = key
    · subst hkey
      rcases hfollowed.served_by h hjob with hawaits | hserves
      · exact .awaited hawaits
      · exact .served hjob hserves.writing_frame
    · refine hfollowed.keep (fun hawaits => hawaits) (fun _ _ _ => Iff.rfl) rfl ?_
      show (cluster.ingresses.insert ⟨some space, name⟩ _).find? id = _
      have hne := ne_of_key_ne (h.known_primaries id primary hknown).named hsplit hspace hkey
      rw [Store.find_insert, if_neg hne]

/-- A write that the API server performs keeps the invariant. -/
theorem accept (h : cluster.Invariant) {worker : Nat} {key : String} {seen : Option Ingress}
    {write : Write} {resume : Except ApiFailure Unit → Sync} {next : Cluster}
    (hjob : cluster.jobs worker = some ⟨key, .reading seen (.writing write resume)⟩)
    (hperform : cluster.perform? write = some next) :
    (next.assign worker (some ⟨key, .reading seen (resume (.ok ()))⟩)).Invariant := by
  obtain ⟨space, name, object, hsplit, hspace, hname, hwrite, -, outcome, hok⟩ :=
    (h.aimed worker _ hjob).of_writing
  obtain rfl := perform_eq_some hwrite hname hperform
  have hstored := h.store hjob hsplit hspace hname
  have hstays : (cluster.store space name object).jobs worker =
      some ⟨key, .reading seen (.writing write resume)⟩ := hjob
  rw [hok]
  refine hstored.move hstays .finished fun id primary hknown hkey hserves => .finished ?_
  obtain ⟨space', written, outcome', hwritten, hrecords, houtcome, hok'⟩ := hserves.of_writing
  rw [hok] at hok'
  cases hok'
  -- the written ingress is aimed at the key, and serves what the key names
  have hsame : written = object := by
    rcases hwrite with rfl | rfl <;> rcases hwritten with hwritten | hwritten <;>
      cases hwritten <;> rfl
  subst hsame
  rw [id_of_split (h.known_primaries id primary hknown).named (hkey ▸ hsplit)]
  rintro _ ⟨⟩
  rcases houtcome with rfl | rfl
  · exact ⟨nofun, iff_of_true (store_records hrecords) nofun⟩
  · exact ⟨nofun, iff_of_true (store_records hrecords) nofun⟩

/-- A worker that learns of a failed write ends with a failure, which keeps the invariant. -/
theorem fail (h : cluster.Invariant) {worker : Nat} {key : String} {seen : Option Ingress}
    {write : Write} {resume : Except ApiFailure Unit → Sync} (failure : ApiFailure)
    (hjob : cluster.jobs worker = some ⟨key, .reading seen (.writing write resume)⟩) :
    (cluster.assign worker (some ⟨key, .reading seen (resume (.error failure))⟩)).Invariant := by
  obtain ⟨space, name, object, -, -, -, -, hfailed, -⟩ := (h.aimed worker _ hjob).of_writing
  rw [hfailed]
  exact h.move hjob .finished fun _ _ _ _ _ => .finished nofun

/-- A write that the API server performs unseen keeps the invariant. -/
theorem lose (h : cluster.Invariant) {worker : Nat} {key : String} {seen : Option Ingress}
    {write : Write} {resume : Except ApiFailure Unit → Sync} {next : Cluster}
    (failure : ApiFailure)
    (hjob : cluster.jobs worker = some ⟨key, .reading seen (.writing write resume)⟩)
    (hperform : cluster.perform? write = some next) :
    (next.assign worker (some ⟨key, .reading seen (resume (.error failure))⟩)).Invariant := by
  obtain ⟨space, name, object, hsplit, hspace, hname, hwrite, -, -⟩ :=
    (h.aimed worker _ hjob).of_writing
  obtain rfl := perform_eq_some hwrite hname hperform
  exact (h.store hjob hsplit hspace hname).fail failure hjob

/-- Ending a sync keeps the invariant. -/
theorem finish (h : cluster.Invariant) {worker : Nat} {key : String} {seen : Option Ingress}
    {result : SyncResult}
    (hjob : cluster.jobs worker = some ⟨key, .reading seen (.finished result)⟩) :
    ({ cluster with
      loop := { cluster.loop with pool := cluster.loop.pool.finish key result }
      last := fun other => if other = key then some ⟨result, seen⟩ else cluster.last other }.assign
        worker none).Invariant := by
  obtain ⟨before, hqueue, hflight, hheld, hshut, hawaits⟩ :=
    WorkerPool.finish_queue cluster.loop.pool key result
  have hmem : key ∈ before.inFlight := hheld ▸ (h.mem_in_flight key).2 ⟨worker, _, hjob, rfl⟩
  have hjobs (other : Nat) (job : SyncJob) :
      (if other = worker then none else cluster.jobs other) = some job ↔
        other ≠ worker ∧ cluster.jobs other = some job := by
    split
    · next heq => simp [heq]
    · next hne => simp [hne]
  -- the worker held its key alone, so afterwards nobody is at it
  have hothers (other : Nat) (job : SyncJob) (hother : other ≠ worker)
      (hheld : cluster.jobs other = some job) : job.key ≠ key := fun hkey =>
    hother (h.one_worker other worker job _ hheld hjob hkey)
  refine { h with
    single_flight := ?_
    accepts := ?_
    mem_in_flight := ?_
    one_worker := ?_
    aimed := ?_
    followed := ?_ }
  · show (cluster.loop.pool.finish key result).queue.SingleFlight
    rw [hqueue]
    exact (hflight h.single_flight).release hmem
  · show (cluster.loop.pool.finish key result).queue.shuttingDown = false
    rw [hqueue, WorkQueue.release_shutting_down, hshut]
    exact h.accepts
  · intro other
    show other ∈ (cluster.loop.pool.finish key result).queue.inFlight ↔ ∃ holder job,
      (if holder = worker then none else cluster.jobs holder) = some job ∧ job.key = other
    simp only [hqueue, WorkQueue.mem_release_in_flight, hheld, hjobs]
    rw [show cluster.loop.pool.queue = cluster.queue from rfl, h.mem_in_flight]
    constructor
    · rintro ⟨⟨holder, job, hholder, rfl⟩, hne⟩
      refine ⟨holder, job, ⟨?_, hholder⟩, rfl⟩
      rintro rfl
      rw [hjob, Option.some.injEq] at hholder
      exact hne (hholder ▸ rfl)
    · rintro ⟨holder, job, ⟨hne, hholder⟩, rfl⟩
      exact ⟨⟨holder, job, hholder, rfl⟩, hothers holder job hne hholder⟩
  · intro first second job other hfirst hsecond hkey
    obtain ⟨-, hfirst⟩ := (hjobs first job).1 hfirst
    obtain ⟨-, hsecond⟩ := (hjobs second other).1 hsecond
    exact h.one_worker first second job other hfirst hsecond hkey
  · intro other job hother
    exact h.aimed other job ((hjobs other job).1 hother).2
  · intro id object hknown
    have hqueued : cluster.queue.Awaits (Key.ofMetadata object.metadata) →
        (cluster.loop.pool.finish key result).queue.Awaits (Key.ofMetadata object.metadata) := by
      intro h
      rw [hqueue]
      exact (hawaits _ h).release key
    by_cases hkey : Key.ofMetadata object.metadata = key
    · subst hkey
      rcases (h.followed id object hknown).served_by h hjob with hawaited | hserves
      · exact .awaited (hqueued hawaited)
      · cases hserves with
        | finished hfits =>
          refine .done (fun other job hother => ?_) (if_pos rfl) hfits
          obtain ⟨hne, hother⟩ := (hjobs other job).1 hother
          exact hothers other job hne hother
    · refine (h.followed id object hknown).keep hqueued (fun other job hother => ?_) (if_neg hkey) rfl
      refine (hjobs other job).trans (and_iff_right_of_imp ?_)
      rintro hheld rfl
      rw [hjob, Option.some.injEq] at hheld
      subst hheld
      exact hkey hother.symm

/-! ## The actions -/

/-- What the API server admits is admitted under its own name. -/
theorem admitted_of_admits {object : FunctionIngress} {id : ObjectId}
    (hadmits : admits object = true) (hid : object.metadata.objectId? = some id) :
    object.Admitted id := by
  simp only [admits, Bool.and_eq_true, Bool.not_eq_true', SortedMap.contains,
    Option.isSome_eq_false_iff, Option.isNone_iff_eq_none] at hadmits
  obtain ⟨⟨-, hspace⟩, hunmarked⟩ := hadmits
  obtain ⟨space, hsome, hne⟩ := (Option.any_eq_true _ _).1 hspace
  refine ⟨⟨hid, space, ?_, ?_⟩, ?_⟩
  · obtain ⟨name, -, rfl⟩ := Option.map_eq_some_iff.1 hid
    exact hsome
  · simpa using hne
  · rw [Metadata.userAnnotations, SortedMap.get?_erase, hunmarked, ite_self]

/-- Every action keeps the invariant. -/
theorem act (h : cluster.Invariant) {action : ClusterAction} {next : Cluster}
    (hact : cluster.act? action = some next) : next.Invariant := by
  cases action with
  | declare object =>
    simp only [act?] at hact
    split at hact
    · next hadmits =>
      obtain ⟨id, hid, rfl⟩ := Option.map_eq_some_iff.1 hact
      exact h.declare (admitted_of_admits hadmits hid)
    · cases hact
  | withdraw id =>
    obtain ⟨object, hfind, rfl⟩ := Option.map_eq_some_iff.1 hact
    exact h.withdraw hfind
  | learnPrimary =>
    simp only [act?] at hact
    split at hact
    · cases hact
    · next hfeed =>
      obtain ⟨loop, hwatch, rfl⟩ := Option.map_eq_some_iff.1 hact
      exact h.learn_primary hfeed hwatch
  | learnIngress =>
    simp only [act?] at hact
    split at hact
    · cases hact
    · next hfeed =>
      obtain ⟨loop, hwatch, rfl⟩ := Option.map_eq_some_iff.1 hact
      exact h.learn_ingress hfeed hwatch
  | take worker =>
    simp only [act?] at hact
    split at hact
    · next hfree htake =>
      cases hact
      exact h.take hfree htake
    · cases hact
  | look worker =>
    simp only [act?] at hact
    split at hact
    · next hjob =>
      cases hact
      exact h.look hjob
    · cases hact
  | read worker =>
    simp only [act?] at hact
    split at hact
    · next hjob =>
      cases hact
      exact h.read hjob
    · cases hact
  | accept worker =>
    simp only [act?] at hact
    split at hact
    · next hjob =>
      obtain ⟨stored, hperform, rfl⟩ := Option.map_eq_some_iff.1 hact
      exact h.accept hjob hperform
    · cases hact
  | refuse worker failure =>
    simp only [act?] at hact
    split at hact
    · next hjob =>
      cases hact
      exact h.fail failure hjob
    · cases hact
  | lose worker failure =>
    simp only [act?] at hact
    split at hact
    · next hjob =>
      obtain ⟨stored, hperform, rfl⟩ := Option.map_eq_some_iff.1 hact
      exact h.lose failure hjob hperform
    · cases hact
  | finish worker =>
    simp only [act?] at hact
    split at hact
    · next hjob =>
      cases hact
      exact h.finish hjob
    · cases hact
  | elapse nanos =>
    cases hact
    exact h.elapse nanos
  | fire entry =>
    simp only [act?] at hact
    split at hact
    · cases hact
      exact h.fire entry
    · cases hact

/-- The invariant holds once the operator has listed what there is. -/
theorem listed (backoff : Backoff) (api : IngressApi) {primaries : Store FunctionIngress}
    {ingresses : Store Ingress} (version : Nat)
    (hprimaries : ∀ id object, primaries.find? id = some object → object.Admitted id)
    (hingresses : ingresses.Namespaced) :
    (Cluster.listed backoff api primaries ingresses version).Invariant where
  single_flight := (WorkQueue.single_flight_new backoff).foldl_add _
  accepts := (WorkQueue.foldl_add_frame _ _).2
  mem_in_flight key := by
    show key ∈ (List.foldl WorkQueue.add (.new backoff) _).inFlight ↔ _
    rw [(WorkQueue.foldl_add_frame _ _).1]
    simp [WorkQueue.new, Cluster.listed]
  one_worker _ _ _ _ h := nomatch h
  aimed _ _ h := nomatch h
  primaries := hprimaries
  known_primaries := hprimaries
  primary_feed _ h := nomatch h
  known_ingresses := hingresses
  ingress_feed _ h := nomatch h
  followed id object hknown := by
    refine .awaited (WorkQueue.awaits_foldl_add rfl ?_)
    refine List.mem_filterMap.2 ⟨.added object, List.mem_map.2 ⟨object, ?_, rfl⟩, rfl⟩
    exact Store.mem_objects hknown

end Cluster.Invariant

end FunctionOperator
