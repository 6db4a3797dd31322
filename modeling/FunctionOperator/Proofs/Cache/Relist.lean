import FunctionOperator.Proofs.Cache.Removal
import FunctionOperator.Proofs.SortedMap
import Mathlib.Data.List.Nodup

/-!
# Complete lists

What a complete list leads to, whatever was seen before it. Read `Informer.Relisted` first, which
lists what `Informer.relist_exact` proves: readers see the last version of every listed object and
nothing else, every listed object is told once with the version that readers had, and every object
that is not listed is told once to be gone. A list that was begun and not finished leaves no trace.

`Informer.Tidy` is what every event keeps. The keys of the list and the gathered objects are kept
apart by the informer, and only its coherence makes them say the same.
-/

namespace FunctionOperator

/-! ## Stores without repetition -/

namespace Store

variable {α : Type}

/-- No identity is stored twice. -/
def Distinct (store : Store α) : Prop := (store.entries.map (·.1)).Nodup

/-- The empty store stores nothing twice. -/
theorem Distinct.empty : (Store.empty : Store α).Distinct := .nil

/-- Putting an entry at its place adds its identity at the end, if it is new. -/
theorem ids_insert_entry (id : ObjectId) (object : α) (entries : List (ObjectId × α)) :
    (insertEntry id object entries).map (·.1) =
      if id ∈ entries.map (·.1) then entries.map (·.1) else entries.map (·.1) ++ [id] := by
  induction entries with
  | nil => rfl
  | cons entry entries ih =>
    rw [insertEntry]
    by_cases hid : entry.1 = id
    · simp [hid]
    · rw [if_neg hid, List.map_cons, ih]
      have hne : id ≠ entry.1 := fun heq => hid heq.symm
      split <;> simp_all

/-- Inserting an object stores nothing twice. -/
theorem Distinct.insert {store : Store α} (h : store.Distinct) (id : ObjectId) (object : α) :
    (store.insert id object).Distinct := by
  unfold Distinct Store.insert
  rw [ids_insert_entry]
  split
  · exact h
  · next hnew => exact List.concat_eq_append ▸ h.concat hnew

/-- Removing an object stores nothing twice. -/
theorem Distinct.erase {store : Store α} (h : store.Distinct) (id : ObjectId) :
    (store.erase id).Distinct :=
  h.sublist (List.filter_sublist.map _)

/-- That nothing is stored twice is kept. -/
theorem Distinct.kept [HasMetadata α] : Store.Kept (@Distinct α) :=
  ⟨.empty, fun h _ => h.insert _ _, fun id h => h.erase id⟩

end Store

section Versions

variable {α : Type} [HasMetadata α]

/-- The objects of a list that have an identity, in their order. -/
def versionsOf (id : ObjectId) (objects : List α) : List α :=
  objects.filter fun object => (HasMetadata.metadata object).objectId? = some id

theorem versions_of_cons (id : ObjectId) (object : α) (objects : List α) :
    versionsOf id (object :: objects) =
      if (HasMetadata.metadata object).objectId? = some id then object :: versionsOf id objects
      else versionsOf id objects := by
  simp only [versionsOf, List.filter_cons, decide_eq_true_eq]

/-- The objects of entries that are under their own names, each once. -/
theorem versions_of_entries {entries : List (ObjectId × α)} (hnodup : (entries.map (·.1)).Nodup)
    (hown : ∀ entry ∈ entries, (HasMetadata.metadata entry.2).objectId? = some entry.1)
    (id : ObjectId) : versionsOf id (entries.map (·.2)) = (entries.lookup id).toList := by
  induction entries with
  | nil => rfl
  | cons first entries ih =>
    obtain ⟨hfirst, hrest⟩ := List.nodup_cons.1 hnodup
    obtain ⟨hown, hothers⟩ := List.forall_mem_cons.1 hown
    rw [List.map_cons, versions_of_cons, hown, ih hrest hothers, ← first.eta, Store.lookup_cons_id]
    by_cases hid : id = first.1
    · have hnone : entries.lookup id = none := by
        refine List.lookup_eq_none_iff.2 fun entry hentry => ?_
        have hne : entry.1 ≠ id := fun heq =>
          hfirst (List.mem_map.2 ⟨entry, hentry, heq.trans hid⟩)
        simpa using hne.symm
      rw [if_pos hid, if_pos (congrArg some hid.symm), hnone]
      rfl
    · rw [if_neg hid, if_neg fun heq => hid (Option.some.inj heq).symm]

/-- A store whose objects are under their own names, each once, has of an identity what is found. -/
theorem Store.versions_of_objects {store : Store α} (hkeyed : store.Keyed)
    (hdistinct : store.Distinct) (id : ObjectId) :
    versionsOf id store.objects = (store.find? id).toList :=
  versions_of_entries hdistinct
    (fun entry hentry => hkeyed entry.1 entry.2 ((lookup_iff_mem hdistinct).2 hentry)) id

end Versions

/-! ## Informers that events lead to -/

/-- An object has a proper identity. -/
def Metadata.ProperlyNamed (metadata : Metadata) : Prop :=
  ∃ id : ObjectId, metadata.objectId? = some id ∧ id.Proper

namespace WatchEvent

variable {α : Type} [HasMetadata α]

/-- The object that an event delivers. -/
def object? : WatchEvent α → Option α
  | .listed object => some object
  | .applied object => some object
  | .deleted object => some object
  | .listStarted => none
  | .listCompleted => none

/-- The object that an event delivers has a proper identity. -/
def ProperlyNamed (event : WatchEvent α) : Prop :=
  ∀ object, event.object? = some object → (HasMetadata.metadata object).ProperlyNamed

namespace ProperlyNamed

/-- The begin of a list delivers no object. -/
theorem list_started : (listStarted : WatchEvent α).ProperlyNamed := nofun

/-- The end of a list delivers no object. -/
theorem list_completed : (listCompleted : WatchEvent α).ProperlyNamed := nofun

variable {object : α}

/-- A listed object is the one that the event delivers. -/
theorem listed (h : (HasMetadata.metadata object).ProperlyNamed) :
    (WatchEvent.listed object).ProperlyNamed := by
  rintro _ ⟨⟩
  exact h

/-- An applied object is the one that the event delivers. -/
theorem applied (h : (HasMetadata.metadata object).ProperlyNamed) :
    (WatchEvent.applied object).ProperlyNamed := by
  rintro _ ⟨⟩
  exact h

end ProperlyNamed

end WatchEvent

namespace Informer

variable {α : Type} [HasMetadata α]
variable {informer next last : Informer α} {event : WatchEvent α} {events : List (WatchEvent α)}
variable {told : List (Notification α)} {objects : List α}

/-- An informer handles every event about a properly named object. -/
theorem process_is_some (informer : Informer α) (hevent : event.ProperlyNamed) :
    (informer.process? event).isSome = true := by
  cases event with
  | listStarted | listCompleted => rfl
  | listed object | applied object | deleted object =>
    obtain ⟨id, hid, -⟩ := hevent object rfl
    simp [process?, hid]

/-- What events keep: the objects have proper identities, are under their own names, each once, and
the keys of the list under way are those of the gathered objects. -/
structure Tidy (informer : Informer α) : Prop where
  /-- Keys and gathered objects are in step. -/
  coherent : informer.Coherent
  /-- All identities are proper. -/
  proper : informer.Proper
  /-- Readers see no identity twice. -/
  distinct : informer.store.Distinct
  /-- No identity is gathered twice. -/
  distinct_gathered : informer.gathered.Distinct

namespace Tidy

/-- A new informer is tidy. -/
theorem new : (Informer.new : Informer α).Tidy :=
  ⟨.new, ⟨.empty, .empty⟩, .empty, .empty⟩

/-- Every event about a properly named object keeps an informer tidy. -/
theorem process (h : informer.Tidy) (hevent : event.ProperlyNamed)
    (hprocess : informer.process? event = some (told, next)) : next.Tidy := by
  have hcoherent := h.coherent.process hprocess
  obtain ⟨hdistinct, hgathered⟩ :=
    process_kept Store.Distinct.kept hprocess h.distinct h.distinct_gathered
  refine ⟨hcoherent, ?_, hdistinct, hgathered⟩
  cases event with
  | listStarted =>
    cases hprocess
    exact ⟨h.proper.store, .empty⟩
  | listCompleted =>
    cases hprocess
    exact ⟨h.proper.gathered, .empty⟩
  | listed object =>
    obtain ⟨id, hid, hproper⟩ := hevent object rfl
    obtain ⟨own, hown, hnext⟩ := Option.bind_eq_some_iff.1 hprocess
    obtain rfl := Option.some.inj (hid.symm.trans hown)
    cases hnext
    exact ⟨h.proper.store, h.proper.gathered.insert hproper object⟩
  | applied object =>
    obtain ⟨id, hid, hproper⟩ := hevent object rfl
    obtain ⟨own, hown, hnext⟩ := Option.bind_eq_some_iff.1 hprocess
    obtain rfl := Option.some.inj (hid.symm.trans hown)
    cases hnext
    exact ⟨h.proper.store.insert hproper object, h.proper.gathered⟩
  | deleted object =>
    obtain ⟨own, -, hnext⟩ := Option.bind_eq_some_iff.1 hprocess
    cases hnext
    exact ⟨h.proper.store.erase own, h.proper.gathered⟩

/-- Events about properly named objects lead from a tidy informer to a tidy one. -/
theorem after (h : informer.Tidy) (hevents : ∀ event ∈ events, event.ProperlyNamed) :
    ∃ last, informer.after? events = some last ∧ last.Tidy := by
  induction events generalizing informer with
  | nil => exact ⟨informer, rfl, h⟩
  | cons event events ih =>
    obtain ⟨hevent, hevents⟩ := List.forall_mem_cons.1 hevents
    obtain ⟨⟨told, next⟩, hprocess⟩ := Option.isSome_iff_exists.1 (process_is_some informer hevent)
    obtain ⟨last, hafter, hlast⟩ := ih (h.process hevent hprocess) hevents
    exact ⟨last, by rw [after?, hprocess, Option.bind_some, hafter], hlast⟩

end Tidy

/-! ## What a list tells -/

/-- What an informer tells at each of some events, and the informer after them; none if one of them
is about an object without a name. -/
def trace? (informer : Informer α) :
    List (WatchEvent α) → Option (List (List (Notification α)) × Informer α)
  | [] => some ([], informer)
  | event :: events => do
    let (told, next) ← informer.process? event
    let (later, last) ← next.trace? events
    return (told :: later, last)

/-- The events of a complete list. -/
def completeList (objects : List α) : List (WatchEvent α) :=
  .listStarted :: (objects.map .listed ++ [.listCompleted])

/-- The stored object that has the identity of an object. -/
def stored? (informer : Informer α) (object : α) : Option α :=
  (HasMetadata.metadata object).objectId?.bind informer.store.find?

/-- One event, and then others. -/
theorem trace_cons {later : List (List (Notification α))}
    (hprocess : informer.process? event = some (told, next))
    (hrest : next.trace? events = some (later, last)) :
    informer.trace? (event :: events) = some (told :: later, last) := by
  simp only [trace?, hprocess, hrest, bind, Option.bind_some, pure]

/-- Some events, and then others. -/
theorem trace_append {first second : List (WatchEvent α)}
    {earlier later : List (List (Notification α))}
    (hfirst : informer.trace? first = some (earlier, next))
    (hsecond : next.trace? second = some (later, last)) :
    informer.trace? (first ++ second) = some (earlier ++ later, last) := by
  induction first generalizing informer earlier with
  | nil =>
    cases hfirst
    exact hsecond
  | cons event first ih =>
    obtain ⟨⟨told, between⟩, hprocess, hrest⟩ := Option.bind_eq_some_iff.1 hfirst
    obtain ⟨⟨more, _⟩, hmore, hpure⟩ := Option.bind_eq_some_iff.1 hrest
    cases hpure
    exact trace_cons hprocess (ih hmore)

/-- Where all identities are proper, readers find the object of this very identity. -/
theorem cached_eq_stored (h : informer.store.Proper) {object : α}
    (hobject : (HasMetadata.metadata object).ProperlyNamed) :
    informer.cached? object = informer.stored? object := by
  obtain ⟨id, hid, hproper⟩ := hobject
  rw [cached?, stored?, space_of_id hid, display_name_of_id hid, hid, Option.bind_some]
  exact h.get_eq hproper

/-- What the objects of a list leave behind: readers see what they saw before, and of every identity
the last object is gathered. -/
structure Gathers (informer next : Informer α) (objects : List α) : Prop where
  /-- Events lead to it. -/
  tidy : next.Tidy
  /-- Readers see nothing new. -/
  store : next.store = informer.store
  /-- The last objects are gathered, and before them what was gathered already. -/
  gathered : ∀ id, next.gathered.find? id =
    (versionsOf id objects).getLast?.or (informer.gathered.find? id)

/-- Every object of a list is told with the version that readers have, and gathered. -/
theorem trace_listed (h : informer.Tidy)
    (hobjects : ∀ object ∈ objects, (HasMetadata.metadata object).ProperlyNamed) :
    ∃ next, informer.trace? (objects.map .listed) =
      some (objects.map fun object => [upsert (informer.stored? object) object], next) ∧
      Gathers informer next objects := by
  induction objects generalizing informer with
  | nil => exact ⟨informer, rfl, h, rfl, fun _ => rfl⟩
  | cons object objects ih =>
    obtain ⟨hobject, hobjects⟩ := List.forall_mem_cons.1 hobjects
    obtain ⟨own, hown, hproper⟩ := hobject
    have hprocess : informer.process? (.listed object) =
        some ([upsert (informer.stored? object) object],
          { informer with
            gathered := informer.gathered.insert own object
            listedKeys := keyOf object :: informer.listedKeys }) := by
      rw [← cached_eq_stored h.proper.store ⟨own, hown, hproper⟩]
      simp only [process?, hown, bind, Option.bind_some, pure]
    have hevent : (WatchEvent.listed object).ProperlyNamed := .listed ⟨own, hown, hproper⟩
    obtain ⟨next, htrace, htidy, hstore, hgathered⟩ := ih (h.process hevent hprocess) hobjects
    refine ⟨next, trace_cons hprocess htrace, htidy, hstore, fun id => ?_⟩
    rw [hgathered, Store.find_insert, versions_of_cons, hown]
    by_cases hid : id = own
    · rw [if_pos hid, if_pos (congrArg some hid.symm), List.getLast?_cons]
      cases (versionsOf id objects).getLast? <;> rfl
    · rw [if_neg hid, if_neg fun heq => hid (Option.some.inj heq).symm]

/-! ## What a complete list takes away -/

/-- Of an identity that the list under way lacks, the stored object is missing from it, and of any
other identity none. -/
theorem Tidy.versions_of_missing (h : informer.Tidy) (id : ObjectId) :
    versionsOf id informer.missing =
      if (informer.gathered.find? id).isNone then (informer.store.find? id).toList else [] := by
  have hmissing : versionsOf id informer.missing =
      (versionsOf id informer.store.objects).filter
        fun object => !informer.listedKeys.contains (keyOf object) := by
    rw [versionsOf, versionsOf, missing, List.filter_filter, List.filter_filter]
    exact List.filter_congr fun object _ => Bool.and_comm _ _
  rw [hmissing, Store.versions_of_objects h.coherent.store h.distinct]
  cases hfind : informer.store.find? id with
  | none => simp
  | some object =>
    have hkey : keyOf object = Key.of id.space id.name :=
      key_of_id (h.coherent.store id object hfind)
    have hlisted := h.coherent.listed_iff h.proper (h.proper.store id object hfind)
    rw [← hkey] at hlisted
    cases hgathered : informer.gathered.find? id with
    | none =>
      have hlacks : keyOf object ∉ informer.listedKeys := fun hmem => hlisted.1 hmem hgathered
      simp [hlacks]
    | some found =>
      have hhas : keyOf object ∈ informer.listedKeys := hlisted.2 (hgathered ▸ nofun)
      simp [hhas]

/-- What readers see has a proper identity. -/
theorem Tidy.identified (h : informer.Tidy) {object : α}
    (hobject : object ∈ informer.store.objects) : (HasMetadata.metadata object).ProperlyNamed := by
  obtain ⟨entry, hentry, rfl⟩ := List.mem_map.1 hobject
  have hfind : informer.store.find? entry.1 = some entry.2 := (lookup_iff_mem h.distinct).2 hentry
  exact ⟨entry.1, h.coherent.store _ _ hfind, h.proper.store _ _ hfind⟩

/-- What a complete list of some objects leads to, when the `removed` ones are told to be gone. -/
structure Relisted (informer last : Informer α) (objects removed : List α) : Prop where
  /-- Before the list readers saw of every identity at most one object. -/
  before : ∀ id, versionsOf id informer.store.objects = (informer.store.find? id).toList
  /-- Afterwards they see of every identity the last listed object, once. -/
  stored : ∀ id, versionsOf id last.store.objects = (versionsOf id objects).getLast?.toList
  /-- A look-up finds it. -/
  found : ∀ id : ObjectId, id.Proper →
    last.store.get? (id.space.getD "") id.name = (versionsOf id objects).getLast?
  /-- Of an identity that is not listed, what readers saw is told to be gone, once. -/
  unlisted : ∀ id, versionsOf id objects = [] →
    versionsOf id removed = (informer.store.find? id).toList
  /-- Of a listed identity nothing is told to be gone. -/
  listed : ∀ id, versionsOf id objects ≠ [] → versionsOf id removed = []
  /-- Whatever readers see and whatever is gone has a proper identity. -/
  identified : ∀ object ∈ last.store.objects ++ removed,
    (HasMetadata.metadata object).ProperlyNamed

/-- The end of a list replaces what readers see by what was gathered, and what it lacks is told to
be gone. -/
theorem Gathers.relisted {started listing : Informer α} (h : Gathers started listing objects)
    (hinformer : informer.Tidy) (hstore : started.store = informer.store)
    (hempty : started.gathered = .empty) (hlast : last.Tidy)
    (hcompleted : last.store = listing.gathered) :
    Relisted informer last objects listing.missing := by
  have hfind (id : ObjectId) : listing.gathered.find? id = (versionsOf id objects).getLast? := by
    rw [h.gathered, hempty]
    exact Option.or_none
  have hgone (id : ObjectId) : versionsOf id listing.missing =
      if (versionsOf id objects).getLast?.isNone then (informer.store.find? id).toList else [] := by
    rw [h.tidy.versions_of_missing, hfind, h.store, hstore]
  refine ⟨fun id => ?_, fun id => ?_, fun id hid => ?_, fun id hnone => ?_, fun id hsome => ?_,
    fun object hobject => ?_⟩
  · exact Store.versions_of_objects hinformer.coherent.store hinformer.distinct id
  · rw [Store.versions_of_objects hlast.coherent.store hlast.distinct, hcompleted, hfind]
  · rw [hlast.proper.store.get_eq hid, hcompleted, hfind]
  · rw [hgone, hnone]
    rfl
  · have hlisted : (versionsOf id objects).getLast?.isNone = false := by
      simpa using hsome
    rw [hgone, hlisted]
    rfl
  · rcases List.mem_append.1 hobject with hseen | hmissing
    · exact hlast.identified hseen
    · exact h.tidy.identified (List.mem_filter.1 hmissing).1

/-- After any events, also after lists that were begun and not finished, a complete list tells every
listed object once, with the version that readers had before the list if there was one, and then
that what is not listed is gone; and readers see what was listed. -/
theorem relist_exact (hevents : ∀ event ∈ events, event.ProperlyNamed)
    (hobjects : ∀ object ∈ objects, (HasMetadata.metadata object).ProperlyNamed) :
    ∃ informer removed last, Informer.new.after? events = some informer ∧
      informer.trace? (completeList objects) =
        some ([] :: (objects.map (fun object => [upsert (informer.stored? object) object]) ++
          [removed.map .removed]), last) ∧
      Relisted informer last objects removed := by
  obtain ⟨informer, hafter, hinformer⟩ := Tidy.new.after hevents
  -- the list begins by forgetting what an unfinished one gathered
  have hstart : informer.process? .listStarted =
      some ([], { informer with gathered := .empty, listedKeys := [] }) := rfl
  obtain ⟨listing, hlisted, hgathers⟩ := trace_listed
    (hinformer.process .list_started hstart) hobjects
  have hcomplete : listing.process? .listCompleted =
      some (listing.missing.map .removed, ⟨listing.gathered, .empty, [], true⟩) := rfl
  exact ⟨informer, listing.missing, _, hafter,
    trace_cons hstart (trace_append hlisted (trace_cons hcomplete rfl)),
    hgathers.relisted hinformer rfl rfl
      (hgathers.tidy.process .list_completed hcomplete) rfl⟩

/-- A version of a function ingress. -/
def versioned (name version : String) : FunctionIngress where
  metadata := { name := some name, space := some "web", resourceVersion := some version }
  spec := {}

/-- Its identity is proper. -/
theorem versioned_properly_named {name : String} (version : String) (hname : name ≠ "")
    (hslash : '/' ∉ name.toList) : (versioned name version).metadata.ProperlyNamed :=
  ⟨⟨some "web", name⟩, rfl, ⟨hname, hslash, by simp, by simp⟩, rfl⟩

/-- A first list, a change, and a list that is begun and not finished. -/
def interrupted : List (WatchEvent FunctionIngress) := [
  .listStarted, .listed (versioned "a" "1"), .listed (versioned "b" "2"), .listCompleted,
  .applied (versioned "b" "3"), .listStarted, .listed (versioned "c" "4")]

/-- After an unfinished list with `c`, a list with `b`, `d` and `b` again tells both versions of `b`
as updates of the one that readers had, and `a` as gone; readers then see `b` and `d`, and `c` was
never seen. -/
theorem relist_exact_interrupted : ∃ informer removed last,
    Informer.new.after? interrupted = some informer ∧
    informer.trace? (completeList
      [versioned "b" "5", versioned "d" "6", versioned "b" "7"]) =
        some ([[], [.updated (versioned "b" "3") (versioned "b" "5")],
          [.added (versioned "d" "6")],
          [.updated (versioned "b" "3") (versioned "b" "7")], removed.map .removed], last) ∧
    versionsOf ⟨some "web", "a"⟩ removed = [versioned "a" "1"] ∧
    versionsOf ⟨some "web", "b"⟩ removed = [] ∧
    versionsOf ⟨some "web", "b"⟩ last.store.objects = [versioned "b" "7"] ∧
    versionsOf ⟨some "web", "c"⟩ last.store.objects = [] := by
  have hnamed (name version : String) (hname : name ∈ ["a", "b", "c", "d"]) :
      (versioned name version).metadata.ProperlyNamed := by
    have hclean : name ≠ "" ∧ '/' ∉ name.toList := by
      simp only [List.mem_cons, List.not_mem_nil, or_false] at hname
      rcases hname with rfl | rfl | rfl | rfl <;> simp
    exact versioned_properly_named version hclean.1 hclean.2
  have hevents : ∀ event ∈ interrupted, event.ProperlyNamed :=
    List.forall_mem_cons.2 ⟨.list_started,
    List.forall_mem_cons.2 ⟨.listed (hnamed "a" "1" (by simp)),
    List.forall_mem_cons.2 ⟨.listed (hnamed "b" "2" (by simp)),
    List.forall_mem_cons.2 ⟨.list_completed,
    List.forall_mem_cons.2 ⟨.applied (hnamed "b" "3" (by simp)),
    List.forall_mem_cons.2 ⟨.list_started,
    List.forall_mem_cons.2 ⟨.listed (hnamed "c" "4" (by simp)), List.forall_mem_nil _⟩⟩⟩⟩⟩⟩⟩
  have hobjects : ∀ object ∈ [versioned "b" "5", versioned "d" "6", versioned "b" "7"],
      (HasMetadata.metadata object).ProperlyNamed := by
    simp only [List.forall_mem_cons, List.not_mem_nil, false_implies, implies_true, and_true]
    exact ⟨hnamed "b" "5" (by simp), hnamed "d" "6" (by simp), hnamed "b" "7" (by simp)⟩
  obtain ⟨informer, removed, last, hafter, htrace, hrelisted⟩ := relist_exact hevents hobjects
  obtain rfl : _ = informer := Option.some.inj hafter
  exact ⟨_, removed, last, hafter, htrace, hrelisted.unlisted ⟨some "web", "a"⟩ rfl,
    hrelisted.listed ⟨some "web", "b"⟩ nofun, hrelisted.stored ⟨some "web", "b"⟩,
    hrelisted.stored ⟨some "web", "c"⟩⟩

end Informer

end FunctionOperator
