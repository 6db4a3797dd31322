import FunctionOperator.Cache.Store
import FunctionOperator.Proofs.Key

/-!
# Stores

What a store finds. Read `Store.find_insert` and `Store.Keyed` first. A store whose objects all have
a namespace finds under a namespace and a name only the object of both.
-/

namespace FunctionOperator

namespace Store

variable {α : Type}

/-- The first entry is found under its own identity only. -/
theorem lookup_cons_id (id other : ObjectId) (object : α) (entries : List (ObjectId × α)) :
    ((id, object) :: entries).lookup other =
      if other = id then some object else entries.lookup other := by
  by_cases h : other = id
  · simp [h]
  · have hne : (other == id) = false := by simpa using h
    rw [List.lookup_cons, hne, if_neg h]

/-- What is found is one of the objects. -/
theorem mem_objects {store : Store α} {id : ObjectId} {object : α}
    (h : store.find? id = some object) : object ∈ store.objects := by
  obtain ⟨first, last, hentries, -⟩ := List.lookup_eq_some_iff.1 h
  refine List.mem_map.2 ⟨(id, object), ?_, rfl⟩
  rw [hentries]
  exact List.mem_append_right _ List.mem_cons_self

/-- An entry that is put at its place is found there. -/
theorem lookup_insert_entry (id other : ObjectId) (object : α) (entries : List (ObjectId × α)) :
    (insertEntry id object entries).lookup other =
      if other = id then some object else entries.lookup other := by
  induction entries with
  | nil => exact lookup_cons_id id other object []
  | cons entry entries ih =>
    obtain ⟨entryId, entryObject⟩ := entry
    rw [insertEntry]
    split
    · next heq =>
      simp only at heq
      subst heq
      by_cases h : other = entryId <;> simp [lookup_cons_id, h]
    · next hne =>
      simp only at hne
      by_cases h : other = entryId
      · subst h
        rw [lookup_cons_id, lookup_cons_id, if_pos rfl, if_neg hne, if_pos rfl]
      · rw [lookup_cons_id, lookup_cons_id, if_neg h, if_neg h, ih]

/-- An insertion changes what is found under its own identity only. -/
@[simp] theorem find_insert (store : Store α) (id other : ObjectId) (object : α) :
    (store.insert id object).find? other = if other = id then some object else store.find? other :=
  lookup_insert_entry id other object store.entries

/-- An object of a namespace is looked up once it is inserted. -/
theorem get_insert_own (store : Store α) {space : String} (hspace : space ≠ "") (name : String)
    (object : α) : (store.insert ⟨some space, name⟩ object).get? space name = some object := by
  have hempty : space.isEmpty = false := by simpa using hspace
  rw [get?, hempty, if_neg (by decide), find_insert, if_pos rfl, Option.some_or]

/-- Entries of another identity are found as before. -/
theorem lookup_filter_ne (id other : ObjectId) (entries : List (ObjectId × α)) :
    (entries.filter fun entry => entry.1 != id).lookup other =
      if other = id then none else entries.lookup other := by
  induction entries with
  | nil => simp
  | cons entry entries ih =>
    obtain ⟨entryId, entryObject⟩ := entry
    by_cases hid : entryId = id
    · subst hid
      rw [List.filter_cons_of_neg (by simp), ih, lookup_cons_id]
      by_cases h : other = entryId <;> simp [h]
    · rw [List.filter_cons_of_pos (by simpa using hid), lookup_cons_id, lookup_cons_id, ih]
      by_cases h : other = entryId
      · subst h
        rw [if_pos rfl, if_neg hid, if_pos rfl]
      · rw [if_neg h, if_neg h]

/-- A removal takes away what is found under its own identity only. -/
@[simp] theorem find_erase (store : Store α) (id other : ObjectId) :
    (store.erase id).find? other = if other = id then none else store.find? other :=
  lookup_filter_ne id other store.entries

end Store

/-- A store whose objects are found under their own names, as they are in those of informers. -/
def Store.Keyed {α : Type} [HasMetadata α] (store : Store α) : Prop :=
  ∀ id object, store.find? id = some object → (HasMetadata.metadata object).objectId? = some id

namespace Store.Keyed

variable {α : Type} [HasMetadata α] {store : Store α}

/-- The empty store has nothing under a wrong name. -/
theorem empty : (Store.empty : Store α).Keyed := nofun

/-- Inserting an object under its name keeps a store keyed. -/
theorem insert (h : store.Keyed) {id : ObjectId} {object : α}
    (hid : (HasMetadata.metadata object).objectId? = some id) : (store.insert id object).Keyed := by
  intro other found hfind
  rw [find_insert] at hfind
  split at hfind
  · next heq =>
    cases hfind
    exact heq ▸ hid
  · exact h other found hfind

/-- Removing an object keeps a store keyed. -/
theorem erase (h : store.Keyed) (id : ObjectId) : (store.erase id).Keyed := by
  intro other found hfind
  rw [find_erase] at hfind
  split at hfind
  · cases hfind
  · exact h other found hfind

/-- What is looked up has the name that it is looked up by. -/
theorem get_name (h : store.Keyed) {space name : String} {object : α}
    (hget : store.get? space name = some object) :
    (HasMetadata.metadata object).name = some name := by
  obtain ⟨id, hname, hfind⟩ : ∃ id : ObjectId, id.name = name ∧ store.find? id = some object := by
    rcases Option.or_eq_some_iff.1 hget with hfind | ⟨-, hfind⟩
    · exact ⟨_, rfl, hfind⟩
    · exact ⟨_, rfl, hfind⟩
  obtain ⟨own, hown, hid⟩ := Option.map_eq_some_iff.1 (h id object hfind)
  rw [hown, ← hname, ← hid]

/-- What takes the place of an object that is looked up is found from then on. -/
theorem get_insert (h : store.Keyed) {space name : String} {object : α}
    (hget : store.get? space name = some object) :
    ∃ id, (HasMetadata.metadata object).objectId? = some id ∧
      ∀ next, (store.insert id next).get? space name = some next := by
  rw [get?] at hget
  cases hfind : store.find? ⟨if space.isEmpty then none else some space, name⟩ with
  | some found =>
    rw [hfind] at hget
    cases hget
    refine ⟨_, h _ _ hfind, fun next => ?_⟩
    rw [get?, find_insert, if_pos rfl, Option.some_or]
  | none =>
    -- an object outside of namespaces stays hidden by none in the namespace
    rw [hfind, Option.none_or] at hget
    refine ⟨_, h _ _ hget, fun next => ?_⟩
    rw [get?, find_insert, find_insert, hfind, if_pos rfl]
    split <;> simp

end Store.Keyed

/-- What holds of the empty store and is kept where an object is put under its own name or one is
removed. -/
structure Store.Kept {α : Type} [HasMetadata α] (P : Store α → Prop) : Prop where
  /-- It holds of the empty store. -/
  empty : P .empty
  /-- Inserting keeps it. -/
  insert : ∀ {store : Store α} {id : ObjectId} {object : α}, P store →
    (HasMetadata.metadata object).objectId? = some id → P (store.insert id object)
  /-- Removing keeps it. -/
  erase : ∀ {store : Store α} (id : ObjectId), P store → P (store.erase id)

/-- That objects are under their own names is kept. -/
theorem Store.Keyed.kept {α : Type} [HasMetadata α] : Store.Kept (@Store.Keyed α _) :=
  ⟨.empty, fun h hid => h.insert hid, fun id h => h.erase id⟩

/-- An object with a name and a namespace that is not empty. -/
def Metadata.Named (metadata : Metadata) (id : ObjectId) : Prop :=
  metadata.objectId? = some id ∧ ∃ space, id.space = some space ∧ space ≠ ""

/-- A store whose objects all have a namespace and are found under their own names. -/
def Store.Namespaced {α : Type} [HasMetadata α] (store : Store α) : Prop :=
  ∀ id object, store.find? id = some object → (HasMetadata.metadata object).Named id

namespace Metadata.Named

variable {metadata : Metadata} {id : ObjectId}

/-- The parts of the identity of a named object. -/
theorem eq_some (h : metadata.Named id) :
    ∃ space name, id = ⟨some space, name⟩ ∧ space ≠ "" ∧ metadata.name = some name ∧
      metadata.space = some space := by
  obtain ⟨hid, space, hspace, hne⟩ := h
  obtain ⟨name, hname, rfl⟩ := Option.map_eq_some_iff.1 hid
  exact ⟨space, name, by rw [← hspace], hne, hname, hspace⟩

end Metadata.Named

namespace Store

variable {α : Type} [HasMetadata α] {store : Store α}

/-- Nothing is found outside of namespaces where all objects have one. -/
theorem Namespaced.find_none (h : store.Namespaced) (name : String) :
    store.find? ⟨none, name⟩ = none := by
  cases hfind : store.find? ⟨none, name⟩ with
  | none => rfl
  | some object =>
    obtain ⟨-, space, hnone, -⟩ := h _ _ hfind
    cases hnone

/-- Where all objects have a namespace, a look-up finds only what is in its namespace. -/
theorem Namespaced.get_eq (h : store.Namespaced) {space : String} (hspace : space ≠ "")
    (name : String) : store.get? space name = store.find? ⟨some space, name⟩ := by
  simp [get?, hspace, h.find_none]

/-- Where all objects have a namespace, nothing is found without one. -/
theorem Namespaced.get_empty (h : store.Namespaced) (name : String) : store.get? "" name = none := by
  simp [get?, h.find_none]

/-- Inserting a named object keeps a store namespaced. -/
theorem Namespaced.insert (h : store.Namespaced) {id : ObjectId} {object : α}
    (hnamed : (HasMetadata.metadata object).Named id) : (store.insert id object).Namespaced := by
  intro other found hfind
  rw [find_insert] at hfind
  split at hfind
  · next heq =>
    cases hfind
    exact heq ▸ hnamed
  · exact h other found hfind

end Store

end FunctionOperator
