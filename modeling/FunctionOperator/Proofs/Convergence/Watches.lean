import FunctionOperator.Proofs.Convergence.Steps

/-!
# What the watches have yet to tell

What the operator knows, with the events that it has not learned of, is what the API server has. Read
`Store.Mirrors` first. Once a watch has told everything, the cache is what it watches.
-/

namespace FunctionOperator

namespace Store

variable {α : Type} [HasMetadata α]

/-- Takes in that an object was created, changed or deleted. -/
def learn (store : Store α) : WatchEvent α → Store α
  | .applied object =>
    match (HasMetadata.metadata object).objectId? with
    | some id => store.insert id object
    | none => store
  | .deleted object =>
    match (HasMetadata.metadata object).objectId? with
    | some id => store.erase id
    | none => store
  | _ => store

/-- What is known and what will be learned make up what there is. -/
def Mirrors (known : Store α) (feed : List (WatchEvent α)) (server : Store α) : Prop :=
  ∀ id, (feed.foldl learn known).find? id = server.find? id

namespace Mirrors

variable {known server : Store α} {feed : List (WatchEvent α)} {id : ObjectId} {object : α}

/-- What is known to begin with is what there is. -/
theorem refl (store : Store α) : store.Mirrors [] store := fun _ => rfl

/-- An object that is stored will be learned of. -/
theorem insert (h : known.Mirrors feed server)
    (hid : (HasMetadata.metadata object).objectId? = some id) :
    known.Mirrors (feed ++ [.applied object]) (server.insert id object) := by
  intro other
  rw [List.foldl_append, List.foldl_cons, List.foldl_nil, learn, hid, find_insert, find_insert, h]

/-- An object that is deleted will be learned of. -/
theorem erase (h : known.Mirrors feed server)
    (hid : (HasMetadata.metadata object).objectId? = some id) :
    known.Mirrors (feed ++ [.deleted object]) (server.erase id) := by
  intro other
  rw [List.foldl_append, List.foldl_cons, List.foldl_nil, learn, hid, find_erase, find_erase, h]

end Mirrors

end Store

/-- An informer stores what it is told of. -/
theorem Informer.process_store {α : Type} [HasMetadata α] {informer next : Informer α}
    {event : WatchEvent α} {object : α} {told : List (Notification α)}
    (hevent : event = .applied object ∨ event = .deleted object)
    (hprocess : informer.process? event = some (told, next)) :
    next.store = informer.store.learn event := by
  rcases hevent with rfl | rfl
  · obtain ⟨id, hid, hnext⟩ := Option.bind_eq_some_iff.1 hprocess
    cases hnext
    rw [Store.learn, hid]
  · obtain ⟨id, hid, hnext⟩ := Option.bind_eq_some_iff.1 hprocess
    cases hnext
    rw [Store.learn, hid]

namespace Cluster

variable {cluster next : Cluster}

/-- Both caches, with what their watches have yet to tell, are what the API server has. -/
structure Mirrored (cluster : Cluster) : Prop where
  /-- The function ingresses. -/
  primaries : cluster.knownPrimaries.Mirrors cluster.primaryFeed cluster.primaries
  /-- The ingresses. -/
  ingresses : cluster.knownIngresses.Mirrors cluster.ingressFeed cluster.ingresses

namespace Mirrored

/-- A write keeps the caches mirrored. -/
theorem perform (h : cluster.Mirrored) (hinvariant : cluster.Invariant) {worker : Nat}
    {key : String} {seen : Option Ingress} {write : Write}
    {resume : Except ApiFailure Unit → Sync}
    (hjob : cluster.jobs worker = some ⟨key, .reading seen (.writing write resume)⟩)
    (hperform : cluster.perform? write = some next) : next.Mirrored := by
  obtain ⟨space, name, object, -, -, hname, hwrite, -, -⟩ :=
    (hinvariant.aimed worker _ hjob).of_writing
  obtain rfl := Invariant.perform_eq_some hwrite hname hperform
  exact ⟨h.primaries, h.ingresses.insert (Invariant.stamp_object_id cluster space hname)⟩

/-- Learning of a function ingress keeps the caches mirrored. -/
theorem learn_primary (h : cluster.Mirrored) (hinvariant : cluster.Invariant)
    {event : WatchEvent FunctionIngress} {events : List (WatchEvent FunctionIngress)}
    (hfeed : cluster.primaryFeed = event :: events) {loop : FunctionIngressLoop}
    (hwatch : cluster.loop.watchPrimary? event = some loop) :
    { cluster with loop := loop, primaryFeed := events }.Mirrored := by
  obtain ⟨id, object, -, hevent⟩ := hinvariant.primary_feed event (hfeed ▸ List.mem_cons_self)
  obtain ⟨⟨told, primaries⟩, hprocess, hloop⟩ := Option.bind_eq_some_iff.1 hwatch
  cases hloop
  have hprimaries := h.primaries
  rw [hfeed] at hprimaries
  refine ⟨?_, h.ingresses⟩
  show primaries.store.Mirrors events cluster.primaries
  rw [Informer.process_store hevent hprocess]
  exact hprimaries

/-- Learning of an ingress keeps the caches mirrored. -/
theorem learn_ingress (h : cluster.Mirrored) (hinvariant : cluster.Invariant)
    {event : WatchEvent Ingress} {events : List (WatchEvent Ingress)}
    (hfeed : cluster.ingressFeed = event :: events) {loop : FunctionIngressLoop}
    (hwatch : cluster.loop.watchIngress? event = some loop) :
    { cluster with loop := loop, ingressFeed := events }.Mirrored := by
  obtain ⟨id, object, -, hevent⟩ := hinvariant.ingress_feed event (hfeed ▸ List.mem_cons_self)
  obtain ⟨⟨told, ingresses⟩, hprocess, hloop⟩ := Option.bind_eq_some_iff.1 hwatch
  cases hloop
  have hingresses := h.ingresses
  rw [hfeed] at hingresses
  refine ⟨h.primaries, ?_⟩
  show ingresses.store.Mirrors events cluster.ingresses
  rw [Informer.process_store (.inl hevent) hprocess]
  exact hingresses

/-- Every action keeps the caches mirrored. -/
theorem act (h : cluster.Mirrored) (hinvariant : cluster.Invariant) {action : ClusterAction}
    (hact : cluster.act? action = some next) : next.Mirrored := by
  cases action with
  | declare object =>
    simp only [act?] at hact
    split at hact
    · obtain ⟨id, hid, rfl⟩ := Option.map_eq_some_iff.1 hact
      exact ⟨h.primaries.insert hid, h.ingresses⟩
    · cases hact
  | withdraw id =>
    obtain ⟨object, hfind, rfl⟩ := Option.map_eq_some_iff.1 hact
    exact ⟨h.primaries.erase (hinvariant.primaries id object hfind).named.1, h.ingresses⟩
  | learnPrimary =>
    simp only [act?] at hact
    split at hact
    · cases hact
    · next hfeed =>
      obtain ⟨loop, hwatch, rfl⟩ := Option.map_eq_some_iff.1 hact
      exact h.learn_primary hinvariant hfeed hwatch
  | learnIngress =>
    simp only [act?] at hact
    split at hact
    · cases hact
    · next hfeed =>
      obtain ⟨loop, hwatch, rfl⟩ := Option.map_eq_some_iff.1 hact
      exact h.learn_ingress hinvariant hfeed hwatch
  | accept worker =>
    simp only [act?] at hact
    split at hact
    · next hjob =>
      obtain ⟨stored, hperform, rfl⟩ := Option.map_eq_some_iff.1 hact
      obtain ⟨hprimaries, hingresses⟩ := h.perform hinvariant hjob hperform
      exact ⟨hprimaries, hingresses⟩
    · cases hact
  | lose worker failure =>
    simp only [act?] at hact
    split at hact
    · next hjob =>
      obtain ⟨stored, hperform, rfl⟩ := Option.map_eq_some_iff.1 hact
      obtain ⟨hprimaries, hingresses⟩ := h.perform hinvariant hjob hperform
      exact ⟨hprimaries, hingresses⟩
    · cases hact
  | take worker | look worker | read worker | refuse worker failure | finish worker | fire entry =>
    simp only [act?] at hact
    split at hact
    · cases hact
      exact ⟨h.primaries, h.ingresses⟩
    · cases hact
  | elapse nanos =>
    cases hact
    exact ⟨h.primaries, h.ingresses⟩

end Mirrored

end Cluster

end FunctionOperator
