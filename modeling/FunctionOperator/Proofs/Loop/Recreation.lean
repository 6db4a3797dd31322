import FunctionOperator.Loop.FunctionIngress
import FunctionOperator.Proofs.Cache.Removal
import FunctionOperator.Proofs.Convergence.Steps

/-!
# Ingresses that are gone are made again

How the control loop for function ingresses heals itself when somebody deletes an ingress. Read
`StaffedLoop.Heals` first: `StaffedLoop.after_gone` proves that in every state before the shutdown
the loss of an ingress makes its function ingress be looked at again, under the key by which it is
always queued, and that a sync of this key that does not find the ingress creates it anew. What
belongs to nobody that is known calls for nothing.

Workers appear by what they do to the queue: `StaffedQueue.act?` lets them take and give back keys
in any order. `StaffedLoop.Coherent` is what every action of a watch or a worker keeps.
-/

namespace FunctionOperator

namespace WorkQueue

variable {queue : WorkQueue}

/-- A queue that accepts keys has one more dirty key after it was added. -/
theorem mem_dirty_add (hopen : queue.shuttingDown = false) (key other : String) :
    other ∈ (queue.add key).dirty ↔ other = key ∨ other ∈ queue.dirty := by
  obtain ⟨hadd, hshut | hdirty⟩ | ⟨hadd, -⟩ | ⟨hadd, -⟩ := add_cases queue key
  · simp [hopen] at hshut
  · rw [hadd]
    exact ⟨.inr, fun h => h.elim (fun heq => heq ▸ hdirty) id⟩
  · rw [hadd]
    exact List.mem_cons
  · rw [hadd]
    exact List.mem_cons

/-- After keys were added the dirty keys are these and those before. -/
theorem mem_dirty_foldl_add (hopen : queue.shuttingDown = false) (keys : List String)
    (other : String) :
    other ∈ (keys.foldl add queue).dirty ↔ other ∈ keys ∨ other ∈ queue.dirty := by
  induction keys generalizing queue with
  | nil => simp
  | cons key keys ih =>
    rw [List.foldl_cons, ih ((add_shutting_down queue key).trans hopen), mem_dirty_add hopen,
      List.mem_cons, or_left_comm, or_assoc]

end WorkQueue

/-- A function ingress whose ingress is not known gets a new one. -/
theorem FunctionIngressCaches.converge_missing {caches : FunctionIngressCaches}
    {primary : FunctionIngress} (h : caches.ingresses.get? (primary.metadata.space.getD "")
      primary.metadata.displayName = none) :
    caches.converge primary = .attempt
      (.createIngress (primary.metadata.space.getD "")
        (Ingress.build caches.api (desiredIngress primary)))
      (.finished (.ok .created)) := by
  simp only [converge, h]
  rfl

/-! ## The loop and its workers -/

/-- The control loop for function ingresses and the keys that its workers hold. -/
structure StaffedLoop where
  /-- The loop. -/
  loop : FunctionIngressLoop
  /-- The keys that were handed out and not given back, each with its worker. -/
  held : List (Nat × String)

/-- What may happen to the loop: an event of one of its watches, or anything that may happen to its
queue. A worker that ends a sync forgets the key or adds it again, and gives it back. -/
inductive LoopAction where
  /-- An event about a function ingress. -/
  | watchPrimary (event : WatchEvent FunctionIngress)
  /-- An event about an ingress. -/
  | watchIngress (event : WatchEvent Ingress)
  /-- An action on the queue. -/
  | queue (action : QueueAction)

namespace StaffedLoop

/-- The loop before anything is known. -/
def new (api : IngressApi) : StaffedLoop := ⟨.new api false, []⟩

/-- The queue. -/
def queue (state : StaffedLoop) : WorkQueue := state.loop.pool.queue

/-- The queue and the keys that workers hold. -/
def staff (state : StaffedLoop) : StaffedQueue := ⟨state.queue, state.held⟩

/-- The function ingresses that the operator knows. -/
def primaries (state : StaffedLoop) : Informer FunctionIngress := state.loop.view.primaries

/-- The ingresses that the operator knows. -/
def ingresses (state : StaffedLoop) : Informer Ingress := state.loop.view.ingresses

/-- Lets an action happen, if it can. -/
def act? (state : StaffedLoop) : LoopAction → Option StaffedLoop
  | .watchPrimary event =>
    (state.loop.watchPrimary? event).map fun loop => { state with loop := loop }
  | .watchIngress event =>
    (state.loop.watchIngress? event).map fun loop => { state with loop := loop }
  | .queue action =>
    (state.staff.act? action).map fun staff =>
      ⟨state.loop.mapQueue fun _ => staff.queue, staff.held⟩

/-- Lets actions happen one after the other. -/
def after? (state : StaffedLoop) : List LoopAction → Option StaffedLoop
  | [] => some state
  | action :: actions => (state.act? action).bind (·.after? actions)

/-- Every object that the operator knows has a proper identity. -/
structure Proper (state : StaffedLoop) : Prop where
  /-- The function ingresses. -/
  primaries : state.primaries.Proper
  /-- The ingresses. -/
  ingresses : state.ingresses.Proper

/-- A loop whose queue is sound and whose informers are coherent. -/
structure Coherent (state : StaffedLoop) : Prop where
  /-- The queue fits what its workers hold. -/
  sound : state.staff.Sound
  /-- The informer of function ingresses. -/
  primaries : state.primaries.Coherent
  /-- The informer of ingresses. -/
  ingresses : state.ingresses.Coherent

variable {state next : StaffedLoop} {api : IngressApi}

/-- The new loop is coherent. -/
theorem Coherent.new (api : IngressApi) : (StaffedLoop.new api).Coherent :=
  ⟨.new _, .new, .new⟩

/-- An event about a function ingress adds the keys that are called for, and nothing else happens
to the queue. -/
theorem watch_primary_eq_some {event : WatchEvent FunctionIngress}
    (hact : state.act? (.watchPrimary event) = some next) :
    ∃ told, state.primaries.process? event = some (told, next.primaries) ∧
      next.ingresses = state.ingresses ∧ next.held = state.held ∧
      next.queue = state.queue.addRoutes primaryRoute? told := by
  obtain ⟨loop, hwatch, rfl⟩ := Option.map_eq_some_iff.1 hact
  obtain ⟨⟨told, informer⟩, hprocess, hloop⟩ := Option.bind_eq_some_iff.1 hwatch
  cases hloop
  exact ⟨told, hprocess, rfl, rfl, rfl⟩

/-- An event about an ingress adds the keys of the owners that are called for, and nothing else
happens to the queue. -/
theorem watch_ingress_eq_some {event : WatchEvent Ingress}
    (hact : state.act? (.watchIngress event) = some next) :
    ∃ told, state.ingresses.process? event = some (told, next.ingresses) ∧
      next.primaries = state.primaries ∧ next.held = state.held ∧
      next.queue = state.queue.addRoutes
        (ownerRoute? FunctionIngress.kind state.primaries.store) told := by
  obtain ⟨loop, hwatch, rfl⟩ := Option.map_eq_some_iff.1 hact
  obtain ⟨⟨told, informer⟩, hprocess, hloop⟩ := Option.bind_eq_some_iff.1 hwatch
  cases hloop
  exact ⟨told, hprocess, rfl, rfl, rfl⟩

/-- What the informer of ingresses takes in, the loop takes in. -/
theorem act_watch_ingress {event : WatchEvent Ingress} {told : List (Notification Ingress)}
    {informer : Informer Ingress} (h : state.ingresses.process? event = some (told, informer)) :
    ∃ next, state.act? (.watchIngress event) = some next := by
  rw [ingresses] at h
  exact ⟨_, by simp only [act?, FunctionIngressLoop.watchIngress?, h]; rfl⟩

/-- Keys that are added leave a queue sound. -/
theorem sound_add_routes {α : Type} (h : state.staff.Sound)
    (route? : Notification α → Option String) (told : List (Notification α)) :
    (⟨state.queue.addRoutes route? told, state.held⟩ : StaffedQueue).Sound := by
  have hsound : (state.staff.mapQueue fun queue => queue.addRoutes route? told).Sound :=
    h.map_queue (h.single_flight.foldl_add _) (WorkQueue.foldl_add_frame _ _).1
  exact hsound

/-- Every action keeps the loop coherent. -/
theorem Coherent.act (h : state.Coherent) {action : LoopAction}
    (hact : state.act? action = some next) : next.Coherent := by
  cases action with
  | watchPrimary event =>
    obtain ⟨told, hprocess, hingresses, hheld, hqueue⟩ := watch_primary_eq_some hact
    refine ⟨?_, h.primaries.process hprocess, hingresses ▸ h.ingresses⟩
    rw [staff, hqueue, hheld]
    exact sound_add_routes h.sound _ told
  | watchIngress event =>
    obtain ⟨told, hprocess, hprimaries, hheld, hqueue⟩ := watch_ingress_eq_some hact
    refine ⟨?_, hprimaries ▸ h.primaries, h.ingresses.process hprocess⟩
    rw [staff, hqueue, hheld]
    exact sound_add_routes h.sound _ told
  | queue action =>
    obtain ⟨staff, hqueue, rfl⟩ := Option.map_eq_some_iff.1 hact
    exact ⟨h.sound.act hqueue, h.primaries, h.ingresses⟩

/-- Whatever happens, a loop remains coherent. -/
theorem Coherent.after (h : state.Coherent) {actions : List LoopAction}
    (hafter : state.after? actions = some next) : next.Coherent := by
  induction actions generalizing state with
  | nil =>
    cases hafter
    exact h
  | cons action actions ih =>
    obtain ⟨stepped, hact, hrest⟩ := Option.bind_eq_some_iff.1 hafter
    exact ih (h.act hact) hrest

/-! ## What follows from a loss -/

/-- The sync of a function ingress whose ingress is not known creates the ingress. -/
theorem sync_key_missing {looked read : StaffedLoop} (hlooked : looked.primaries.store.Keyed)
    (hprimaries : looked.primaries.store.Proper) (hingresses : read.ingresses.store.Proper)
    {id : ObjectId} (hid : id.Proper) {current : FunctionIngress}
    (hcurrent : looked.primaries.store.get? (id.space.getD "") id.name = some current)
    (hmissing : read.ingresses.store.find? id = none) :
    syncKey looked.primaries.store read.loop.view.caches.converge (Key.of id.space id.name) =
      .ok (some (current, .attempt
        (.createIngress (id.space.getD "")
          (Ingress.build read.loop.view.ingressApi (desiredIngress current)))
        (.finished (.ok .created)))) := by
  have hown : current.metadata.objectId? = some id :=
    hlooked _ _ ((hprimaries.get_eq hid).symm.trans hcurrent)
  have hspace : current.metadata.space = id.space := space_of_id hown
  have hname : current.metadata.displayName = id.name := display_name_of_id hown
  have hexisting : read.loop.view.caches.ingresses.get? (current.metadata.space.getD "")
      current.metadata.displayName = none := by
    rw [hspace, hname]
    exact (hingresses.get_eq hid).trans hmissing
  have hconverge := FunctionIngressCaches.converge_missing hexisting
  rw [hspace] at hconverge
  simp only [syncKey, Key.split_of_plain hid.toPlain, hcurrent, bind, Except.bind, pure,
    Except.pure, Option.map_some, hconverge]
  rfl

/-- How the loop heals the loss of an ingress from a state on: the key of its function ingress is
queued, or a worker that holds it will find it queued again; and whenever a sync of the key finds
the function ingress while the ingress is not back, it asks for one write, and if that succeeds it
has created the ingress that the function ingress as it then is calls for. -/
structure Heals (state : StaffedLoop) (id : ObjectId) (primary : FunctionIngress) : Prop where
  /-- The key is the one by which the function ingress is queued when it appears. -/
  key : primaryRoute? (.added primary) = some (Key.of id.space id.name)
  /-- It waits, or is held and dirty. -/
  placed : Key.of id.space id.name ∈ state.queue.waiting ∨
    Key.of id.space id.name ∈ state.queue.inFlight ∧ Key.of id.space id.name ∈ state.queue.dirty
  /-- Later a worker looks the function ingress up, and then the ingress. -/
  created : ∀ first second looked read current, state.after? first = some looked →
    looked.after? second = some read → looked.Proper → read.Proper →
    looked.primaries.store.get? (id.space.getD "") id.name = some current →
    read.ingresses.store.find? id = none →
    ∀ {γ : Type} (perform : Write → γ → Except ApiFailure Unit × γ) (before : γ),
      let write := .createIngress (id.space.getD "")
        (Ingress.build read.loop.view.ingressApi (desiredIngress current))
      ∃ result event, runSync FunctionIngress.kind looked.primaries.store
          read.loop.view.caches.converge perform (Key.of id.space id.name) before =
            (result, event, (perform write before).2) ∧
        ((perform write before).1 = .ok () → result = .ok .created)

/-- Only the keys of known owners of removed objects are added. -/
theorem added_keys {event : WatchEvent Ingress}
    (hact : state.act? (.watchIngress event) = some next) :
    ∃ keys : List String, next.queue = keys.foldl WorkQueue.add state.queue ∧ ∀ key ∈ keys,
      ∃ removed owner, state.ingresses.Removes event removed ∧
        KnownOwner FunctionIngress.kind state.primaries.store removed owner ∧
        key = Key.of (some (removed.metadata.space.getD "")) owner.name := by
  obtain ⟨told, hprocess, -, -, hqueue⟩ := watch_ingress_eq_some hact
  refine ⟨_, hqueue, fun key hkey => ?_⟩
  obtain ⟨notification, htold, hroute⟩ := List.mem_filterMap.1 hkey
  cases notification with
  | added | updated => cases hroute
  | removed object =>
    obtain ⟨owner, hknown, rfl⟩ := owner_route_eq_some.1 hroute
    exact ⟨object, owner, (Informer.process_removed hprocess).1 htold, hknown, rfl⟩

/-- The key of the owner of an ingress that is gone waits, or is held and dirty. -/
theorem Coherent.placed (h : state.Coherent) (hopen : state.queue.shuttingDown = false)
    {event : WatchEvent Ingress} {ingress : Ingress}
    (hremoves : state.ingresses.Removes event ingress) {owner : OwnerReference}
    (hknown : KnownOwner FunctionIngress.kind state.primaries.store ingress owner)
    (hact : state.act? (.watchIngress event) = some next) {key : String}
    (hkey : key = Key.of (some (ingress.metadata.space.getD "")) owner.name) :
    key ∈ next.queue.waiting ∨ key ∈ next.queue.inFlight ∧ key ∈ next.queue.dirty := by
  obtain ⟨told, hprocess, -, -, hqueue⟩ := watch_ingress_eq_some hact
  have hdirty : key ∈ next.queue.dirty := by
    rw [hqueue, WorkQueue.addRoutes, WorkQueue.mem_dirty_foldl_add hopen]
    exact .inl (List.mem_filterMap.2 ⟨_, (Informer.process_removed hprocess).2 hremoves,
      owner_route_eq_some.2 ⟨owner, hknown, hkey⟩⟩)
  have hstillOpen : next.queue.shuttingDown = false := by
    rw [hqueue]
    exact (WorkQueue.foldl_add_frame _ _).2.trans hopen
  exact ((h.act hact).sound.single_flight.dirty_placed hstillOpen key hdirty).imp_right
    fun hheld => ⟨hheld, hdirty⟩

/-- The loss of an ingress of a known function ingress is healed. -/
theorem Coherent.heals (h : state.Coherent) (hopen : state.queue.shuttingDown = false)
    (hproper : state.Proper) {event : WatchEvent Ingress} {id : ObjectId} {ingress : Ingress}
    (hgone : state.ingresses.Gone id ingress event) {owner : OwnerReference}
    (hcontroller : ingress.metadata.controller? = some owner)
    (hkind : owner.kind = FunctionIngress.kind.kind) (hname : owner.name = id.name)
    {primary : FunctionIngress}
    (hget : state.primaries.store.get? (id.space.getD "") owner.name = some primary)
    (hact : state.act? (.watchIngress event) = some next) : next.Heals id primary := by
  have hid : id.Proper := hproper.ingresses.store _ _ hgone.cached
  have hspace : ingress.metadata.space = id.space :=
    space_of_id (h.ingresses.store _ _ hgone.cached)
  obtain ⟨space, hsome⟩ := Option.isSome_iff_exists.1 hid.namespaced
  refine ⟨?_, ?_, ?_⟩
  · rw [hname, hproper.primaries.store.get_eq hid] at hget
    have hkey : Informer.keyOf primary = Key.of id.space id.name :=
      Informer.key_of_id (h.primaries.store _ _ hget)
    exact congrArg some hkey
  · have hknown : KnownOwner FunctionIngress.kind state.primaries.store ingress owner := by
      refine ⟨hcontroller, hkind, ?_⟩
      rw [show (HasMetadata.metadata ingress).space = id.space from hspace, hget]
      rfl
    refine h.placed hopen (hgone.removes h.ingresses hproper.ingresses).2 hknown hact ?_
    rw [hspace, hname, hsome, Option.getD_some]
  · intro first second looked read current hfirst hsecond hlooked hread hcurrent hmissing γ perform
      before
    have hcourse := sync_key_missing ((h.act hact).after hfirst).primaries.store
      hlooked.primaries.store hread.ingresses.store hid hcurrent hmissing
    rw [runSync, hcourse]
    simp only [Sync.attempt, Sync.run]
    cases (perform _ before).1 <;> exact ⟨_, _, rfl, by simp [Sync.run]⟩

/-- In every state before the shutdown: when the operator learns that an ingress is gone whose
controller is the known function ingress of the same name, the loop heals the loss. And whatever the
operator learns about ingresses, only the keys of known owners of removed objects are added, so that
without one the queue stays as it is. -/
theorem after_gone {actions : List LoopAction} (hafter : (new api).after? actions = some state)
    (hopen : state.queue.shuttingDown = false) (hproper : state.Proper)
    (event : WatchEvent Ingress) :
    (∀ id ingress owner primary, state.ingresses.Gone id ingress event →
      ingress.metadata.controller? = some owner → owner.kind = FunctionIngress.kind.kind →
      owner.name = id.name →
      state.primaries.store.get? (id.space.getD "") owner.name = some primary →
      ∃ next, state.act? (.watchIngress event) = some next ∧ next.Heals id primary) ∧
    ∀ next, state.act? (.watchIngress event) = some next →
      (∃ keys : List String, next.queue = keys.foldl WorkQueue.add state.queue ∧ ∀ key ∈ keys,
        ∃ removed owner, state.ingresses.Removes event removed ∧
          KnownOwner FunctionIngress.kind state.primaries.store removed owner ∧
          key = Key.of (some (removed.metadata.space.getD "")) owner.name) ∧
      ((∀ removed owner, state.ingresses.Removes event removed →
          ¬ KnownOwner FunctionIngress.kind state.primaries.store removed owner) →
        next.queue = state.queue) := by
  have hcoherent := (Coherent.new api).after hafter
  constructor
  · intro id ingress owner primary hgone hcontroller hkind hname hget
    obtain ⟨⟨told, ingresses, hprocess⟩, -⟩ := hgone.removes hcoherent.ingresses hproper.ingresses
    obtain ⟨next, hact⟩ := act_watch_ingress hprocess
    exact ⟨next, hact, hcoherent.heals hopen hproper hgone hcontroller hkind hname hget hact⟩
  · intro next hact
    obtain ⟨keys, hqueue, hkeys⟩ := added_keys hact
    refine ⟨⟨keys, hqueue, hkeys⟩, fun hunknown => ?_⟩
    have hnone : keys = [] := List.eq_nil_iff_forall_not_mem.2 fun key hkey => by
      obtain ⟨removed, owner, hremoves, hknown, -⟩ := hkeys key hkey
      exact hunknown removed owner hremoves hknown
    rw [hqueue, hnone, List.foldl_nil]

/-- A function ingress. -/
def shop : FunctionIngress where
  metadata := { name := some "shop", space := some "web", uid := some "1" }
  spec := { domain := "shop.example", function := "shop" }

/-- Its ingress, as it is created. -/
def shopIngress : Ingress := .build .networkingV1 (desiredIngress shop)

/-- What is told of the ingress when it is deleted, without its owners. -/
def shopRemains : Ingress where
  types := none
  metadata := { name := some "shop", space := some "web" }
  data := .object []

/-- The function ingress appears, and a worker that holds its key has created the ingress. -/
def shopOpens : List LoopAction :=
  [.watchPrimary (.applied shop), .queue (.take 0), .watchIngress (.applied shopIngress)]

/-- An ingress that is deleted while a worker holds the key of its function ingress: the key waits
again once it is given back, and a sync that finds no ingress creates one. -/
theorem after_gone_deleted :
    ∃ state next retaken, (new .networkingV1).after? shopOpens = some state ∧
      state.act? (.watchIngress (.deleted shopRemains)) = some next ∧
      next.Heals ⟨some "web", "shop"⟩ shop ∧
      next.after? [.queue (.release 0 "web/shop"), .queue (.take 1)] = some retaken ∧
      retaken.held = [(1, "web/shop")] ∧
      ∃ event, runSync FunctionIngress.kind retaken.primaries.store
        retaken.loop.view.caches.converge (fun _ state => (.ok (), state)) "web/shop" () =
          (.ok .created, event, ()) := by
  have hid : ObjectId.Proper ⟨some "web", "shop"⟩ :=
    { name := by decide, name_slash := by decide, space := by simp, space_slash := by simp,
      namespaced := rfl }
  obtain ⟨state, next, retaken, hafter, hopen, hprimaries, hingresses, hact, hretaken, hheld,
      hknown, hmissing⟩ :
      ∃ state next retaken, (new .networkingV1).after? shopOpens = some state ∧
        state.queue.shuttingDown = false ∧
        state.primaries = ⟨Store.empty.insert ⟨some "web", "shop"⟩ shop, .empty, [], false⟩ ∧
        state.ingresses =
          ⟨Store.empty.insert ⟨some "web", "shop"⟩ shopIngress, .empty, [], false⟩ ∧
        state.act? (.watchIngress (.deleted shopRemains)) = some next ∧
        next.after? [.queue (.release 0 "web/shop"), .queue (.take 1)] = some retaken ∧
        retaken.held = [(1, "web/shop")] ∧
        retaken.primaries = ⟨Store.empty.insert ⟨some "web", "shop"⟩ shop, .empty, [], false⟩ ∧
        retaken.ingresses = ⟨.empty, .empty, [], false⟩ :=
    ⟨_, _, _, rfl, rfl, rfl, rfl, rfl, rfl, rfl, rfl, rfl⟩
  have hproper : state.Proper := by
    refine ⟨?_, ?_⟩
    · rw [hprimaries]
      exact ⟨Store.Proper.empty.insert hid _, .empty⟩
    · rw [hingresses]
      exact ⟨Store.Proper.empty.insert hid _, .empty⟩
  have hretakenProper : retaken.Proper := by
    refine ⟨?_, ?_⟩
    · rw [hknown]
      exact ⟨Store.Proper.empty.insert hid _, .empty⟩
    · rw [hmissing]
      exact ⟨.empty, .empty⟩
  obtain ⟨hhealed, -⟩ := after_gone hafter hopen hproper (.deleted shopRemains)
  obtain ⟨_, hact', hheals⟩ := hhealed ⟨some "web", "shop"⟩ shopIngress _ shop
    (.deleted rfl (by rw [hingresses]; rfl)) rfl rfl rfl (by rw [hprimaries]; rfl)
  obtain rfl := Option.some.inj (hact.symm.trans hact')
  obtain ⟨result, event, hsync, hcreated⟩ := hheals.created _ [] retaken retaken shop hretaken rfl
    hretakenProper hretakenProper (by rw [hknown]; rfl) (by rw [hmissing]; rfl)
    (fun _ state => (.ok (), state)) ()
  rw [hcreated rfl] at hsync
  exact ⟨state, next, retaken, hafter, hact, hheals, hretaken, hheld, event, hsync⟩

end StaffedLoop

end FunctionOperator
