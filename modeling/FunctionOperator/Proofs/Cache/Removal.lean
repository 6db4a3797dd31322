import FunctionOperator.Cache.Routing
import FunctionOperator.Proofs.Cache.Visibility

/-!
# What informers take away

Which objects an informer tells to be gone, and whose keys that calls for. Read `Informer.Gone` and
`Informer.Removes` first: an informer that learns by a deletion or by a complete list that an object
is gone takes away the version that its readers had, and `owner_route_eq_some` says when this calls
for a key.

A complete list is compared with the store by keys and not by identities. So it matters that the
keys of the list are exactly those of what was gathered (`Informer.Coherent`), and that proper
identities have different keys (`Key.of_injective`).
-/

namespace FunctionOperator

/-! ## Identities and keys -/

/-- An identity that the cluster gives: the namespace is there, and both parts are plain. -/
structure ObjectId.Proper (id : ObjectId) : Prop extends id.Plain where
  /-- There is a namespace. -/
  namespaced : id.space.isSome

/-- Proper identities have different keys. -/
theorem Key.of_injective {id other : ObjectId} (h : id.Proper) (hother : other.Proper)
    (hkey : of id.space id.name = of other.space other.name) : id = other := by
  obtain ⟨space, hspace⟩ := Option.isSome_iff_exists.1 h.namespaced
  obtain ⟨space', hspace'⟩ := Option.isSome_iff_exists.1 hother.namespaced
  have hsplit : Key.split (of other.space other.name) = .ok (id.space.getD "", id.name) :=
    hkey ▸ split_of_plain h.toPlain
  rw [split_of_plain hother.toPlain] at hsplit
  cases id
  cases other
  simp_all

/-- An object is in the namespace of its identity. -/
theorem space_of_id {metadata : Metadata} {id : ObjectId} (h : metadata.objectId? = some id) :
    metadata.space = id.space := by
  obtain ⟨name, -, rfl⟩ := Option.map_eq_some_iff.1 h
  rfl

/-- An object with a name is shown by it. -/
theorem display_name_of_id {metadata : Metadata} {id : ObjectId}
    (h : metadata.objectId? = some id) : metadata.displayName = id.name := by
  obtain ⟨name, hname, rfl⟩ := Option.map_eq_some_iff.1 h
  simp [Metadata.displayName, hname]

namespace Store

variable {α : Type}

/-- A store all of whose objects have a proper identity. -/
def Proper (store : Store α) : Prop := ∀ id object, store.find? id = some object → id.Proper

/-- The empty store is proper. -/
theorem Proper.empty : (Store.empty : Store α).Proper := nofun

/-- Inserting under a proper identity keeps a store proper. -/
theorem Proper.insert {store : Store α} (h : store.Proper) {id : ObjectId} (hid : id.Proper)
    (object : α) : (store.insert id object).Proper := by
  intro other found hfind
  rw [find_insert] at hfind
  split at hfind
  · next heq => exact heq ▸ hid
  · exact h other found hfind

/-- Removing keeps a store proper. -/
theorem Proper.erase {store : Store α} (h : store.Proper) (id : ObjectId) :
    (store.erase id).Proper := by
  intro other found hfind
  rw [find_erase] at hfind
  split at hfind
  · cases hfind
  · exact h other found hfind

/-- In a proper store a look-up finds what has this very identity. -/
theorem Proper.get_eq {store : Store α} (h : store.Proper) {id : ObjectId} (hid : id.Proper) :
    store.get? (id.space.getD "") id.name = store.find? id := by
  have hnone : store.find? ⟨none, id.name⟩ = none := by
    cases hfind : store.find? ⟨none, id.name⟩ with
    | none => rfl
    | some object => exact absurd (h _ object hfind).namespaced (by simp)
  obtain ⟨space, hspace⟩ := Option.isSome_iff_exists.1 hid.namespaced
  have hne : space ≠ "" := hid.space space hspace
  obtain ⟨_, name⟩ := id
  cases hspace
  simp [get?, hne, hnone]

end Store

/-! ## Informers whose lists are in step -/

namespace Informer

section

variable {α : Type} [HasMetadata α]

/-- An informer whose objects are under their own names, and whose keys of the list under way are
those of the objects gathered. -/
structure Coherent (informer : Informer α) : Prop where
  /-- Readers find objects under their own names. -/
  store : informer.store.Keyed
  /-- Gathered objects are under their own names. -/
  gathered : informer.gathered.Keyed
  /-- The keys of the list are those of the gathered objects. -/
  listed : ∀ key, key ∈ informer.listedKeys ↔
    ∃ id object, informer.gathered.find? id = some object ∧ Key.of id.space id.name = key

/-- Every object of an informer has a proper identity. -/
structure Proper (informer : Informer α) : Prop where
  /-- The objects that readers see. -/
  store : informer.store.Proper
  /-- The objects of the list under way. -/
  gathered : informer.gathered.Proper

/-- A new informer is coherent. -/
theorem Coherent.new : (Informer.new : Informer α).Coherent where
  store := .empty
  gathered := .empty
  listed key := by simp [Informer.new, Store.find?, Store.empty]

variable {informer next : Informer α} {event : WatchEvent α} {told : List (Notification α)}
variable {object : α} {id : ObjectId}

/-- Every event keeps an informer coherent. -/
theorem Coherent.process (h : informer.Coherent)
    (hprocess : informer.process? event = some (told, next)) : next.Coherent := by
  obtain ⟨hstore, hgathered⟩ := process_keyed hprocess h.store h.gathered
  refine ⟨hstore, hgathered, fun key => ?_⟩
  cases event with
  | listStarted | listCompleted =>
    cases hprocess
    simp [Store.find?, Store.empty]
  | applied object | deleted object =>
    obtain ⟨own, -, hnext⟩ := Option.bind_eq_some_iff.1 hprocess
    cases hnext
    exact h.listed key
  | listed object =>
    obtain ⟨own, hown, hnext⟩ := Option.bind_eq_some_iff.1 hprocess
    cases hnext
    simp only [List.mem_cons, h.listed, key_of_id hown, Store.find_insert]
    constructor
    · rintro (rfl | ⟨other, found, hfind, hkey⟩)
      · exact ⟨own, object, if_pos rfl, rfl⟩
      · by_cases heq : other = own
        · exact ⟨other, object, if_pos heq, hkey⟩
        · exact ⟨other, found, by rw [if_neg heq, hfind], hkey⟩
    · rintro ⟨other, found, hfind, hkey⟩
      by_cases heq : other = own
      · exact .inl (heq ▸ hkey.symm)
      · rw [if_neg heq] at hfind
        exact .inr ⟨other, found, hfind, hkey⟩

/-- The list under way has the key of a proper identity exactly if an object of it was gathered. -/
theorem Coherent.listed_iff (h : informer.Coherent) (hproper : informer.Proper) (hid : id.Proper) :
    Key.of id.space id.name ∈ informer.listedKeys ↔ informer.gathered.find? id ≠ none := by
  rw [h.listed]
  constructor
  · rintro ⟨other, found, hfind, hkey⟩
    obtain rfl := Key.of_injective (hproper.gathered _ _ hfind) hid hkey
    rw [hfind]
    exact nofun
  · intro hgathered
    obtain ⟨found, hfind⟩ := Option.ne_none_iff_exists'.1 hgathered
    exact ⟨id, found, hfind, rfl⟩

/-! ### Objects that are gone -/

/-- What an event takes away. A deleted object counts as readers had it, whatever its last version
still carries. -/
inductive Removes (informer : Informer α) : WatchEvent α → α → Prop where
  /-- The object is deleted. -/
  | deleted (last : α) : informer.Removes (.deleted last) ((informer.cached? last).getD last)
  /-- The list is complete, and lacks the object. -/
  | unlisted {object : α} (hmissing : object ∈ informer.missing) :
    informer.Removes .listCompleted object

/-- An informer tells of a removal exactly if the event takes the object away. -/
theorem process_removed (hprocess : informer.process? event = some (told, next)) :
    .removed object ∈ told ↔ informer.Removes event object := by
  cases event with
  | listStarted =>
    cases hprocess
    exact ⟨nofun, nofun⟩
  | listCompleted =>
    cases hprocess
    constructor
    · intro h
      obtain ⟨gone, hgone, heq⟩ := List.mem_map.1 h
      cases heq
      exact .unlisted hgone
    · rintro ⟨⟩
      exact List.mem_map_of_mem ‹_›
  | applied other | listed other =>
    obtain ⟨own, -, hnext⟩ := Option.bind_eq_some_iff.1 hprocess
    cases hnext
    refine ⟨fun h => ?_, nofun⟩
    have hupsert := List.mem_singleton.1 h
    unfold upsert at hupsert
    split at hupsert <;> cases hupsert
  | deleted last =>
    obtain ⟨own, -, hnext⟩ := Option.bind_eq_some_iff.1 hprocess
    cases hnext
    constructor
    · intro h
      cases List.mem_singleton.1 h
      exact .deleted last
    · rintro ⟨⟩
      exact List.mem_singleton_self _

/-- An event by which an informer learns that an object of its readers is gone. -/
inductive Gone (informer : Informer α) (id : ObjectId) (object : α) : WatchEvent α → Prop where
  /-- The object of this name is deleted; the version that is told may carry less. -/
  | deleted {last : α} (hid : (HasMetadata.metadata last).objectId? = some id)
    (hcached : informer.store.find? id = some object) : Gone informer id object (.deleted last)
  /-- A list is complete that has no object of this name. -/
  | unlisted (hcached : informer.store.find? id = some object)
    (hunlisted : informer.gathered.find? id = none) : Gone informer id object .listCompleted

/-- What is gone was seen by readers. -/
theorem Gone.cached (h : informer.Gone id object event) :
    informer.store.find? id = some object := by
  cases h <;> assumption

/-- The informer takes in that an object is gone, and takes away what readers had. -/
theorem Gone.removes (h : informer.Gone id object event) (hcoherent : informer.Coherent)
    (hproper : informer.Proper) :
    (∃ told next, informer.process? event = some (told, next)) ∧ informer.Removes event object := by
  cases h with
  | @deleted last hid hcached =>
    refine ⟨⟨_, _, by rw [process?, hid]; rfl⟩, ?_⟩
    have hread : informer.cached? last = some object := by
      obtain ⟨name, hname, rfl⟩ := Option.map_eq_some_iff.1 hid
      have hget := (hproper.store _ _ hcached).get_of_find hcached
      simpa [cached?, Metadata.displayName, hname] using hget
    have hremoves : informer.Removes (.deleted last) ((informer.cached? last).getD last) :=
      .deleted last
    rwa [hread, Option.getD_some] at hremoves
  | unlisted hcached hunlisted =>
    refine ⟨⟨_, _, rfl⟩, .unlisted (List.mem_filter.2 ⟨Store.mem_objects hcached, ?_⟩)⟩
    suffices hkey : keyOf object ∉ informer.listedKeys by simpa using hkey
    rw [key_of_id (hcoherent.store _ _ hcached),
      hcoherent.listed_iff hproper (hproper.store _ _ hcached)]
    exact fun hlisted => hlisted hunlisted

end

end Informer

/-! ## Owners -/

/-- The controller of an object is a known primary object of its namespace. -/
structure KnownOwner {σ α : Type} [HasMetadata α] (kind : PrimaryKind σ)
    (owners : Store (Primary σ)) (object : α) (owner : OwnerReference) : Prop where
  /-- It controls the object. -/
  controller : (HasMetadata.metadata object).controller? = some owner
  /-- It is of the kind. -/
  kind_eq : owner.kind = kind.kind
  /-- It is known. -/
  known : (owners.get? ((HasMetadata.metadata object).space.getD "") owner.name).isSome

/-- An object that is gone calls for the key of its controller, if that is known, and for nothing
otherwise. -/
theorem owner_route_eq_some {σ α : Type} [HasMetadata α] {kind : PrimaryKind σ}
    {owners : Store (Primary σ)} {object : α} {key : String} :
    ownerRoute? kind owners (.removed object) = some key ↔
      ∃ owner, KnownOwner kind owners object owner ∧
        key = Key.of (some ((HasMetadata.metadata object).space.getD "")) owner.name := by
  constructor
  · intro h
    obtain ⟨owner, hcontroller, h⟩ := Option.bind_eq_some_iff.1 h
    simp only [bne_iff_ne, ne_eq, ite_not] at h
    split at h
    · next hkind =>
      obtain ⟨primary, hget, hkey⟩ := Option.bind_eq_some_iff.1 h
      cases hkey
      exact ⟨owner, ⟨hcontroller, hkind, by simp [hget]⟩, rfl⟩
    · cases h
  · rintro ⟨owner, ⟨hcontroller, hkind, hknown⟩, rfl⟩
    obtain ⟨primary, hget⟩ := Option.isSome_iff_exists.1 hknown
    simp [ownerRoute?, hcontroller, hkind, hget]

end FunctionOperator
