import FunctionOperator.Cache.Routing
import FunctionOperator.Proofs.Cache.Store
import FunctionOperator.Proofs.Sync.WriteSafety

/-!
# When readers see what is told

Informers tell of an object before or after their readers can see it, according to where it comes
from. Read `Informer.Announced` first, which says for both ways when the object is seen:
`Informer.process_announced` proves it for every informer and all that may happen afterwards. An
object of a list is told at once but seen only when the list is complete, so that
`Informer.listed_not_visible` refutes that all that is told is seen.
-/

namespace FunctionOperator

/-- The object that a notification is about, as it is now; none if it is gone. -/
def Notification.current? {α : Type} : Notification α → Option α
  | .added object => some object
  | .updated _ new => some new
  | .removed _ => none

namespace ObjectId

/-- The name and the namespace are not empty and have no slash, as the cluster demands. -/
structure Plain (id : ObjectId) : Prop where
  /-- The name is not empty. -/
  name : id.name ≠ ""
  /-- It has no slash. -/
  name_slash : '/' ∉ id.name.toList
  /-- The namespace is not empty. -/
  space : ∀ space ∈ id.space, space ≠ ""
  /-- It has no slash. -/
  space_slash : ∀ space ∈ id.space, '/' ∉ space.toList

/-- What is found under a plain identity is found by a look-up of its namespace and name. -/
theorem Plain.get_of_find {α : Type} {store : Store α} {id : ObjectId} {object : α} (h : id.Plain)
    (hfind : store.find? id = some object) :
    store.get? (id.space.getD "") id.name = some object := by
  obtain ⟨space, name⟩ := id
  cases space with
  | none => simp [Store.get?, hfind]
  | some space =>
    have hspace : space.isEmpty = false := by simpa using h.space space rfl
    rw [Store.get?, Option.getD_some, hspace, if_neg (by decide), hfind, Option.some_or]

end ObjectId

namespace Key

/-- The key of a plain identity is split into what it was made from. -/
theorem split_of_plain {id : ObjectId} (h : id.Plain) :
    split (of id.space id.name) = .ok (id.space.getD "", id.name) := by
  obtain ⟨space, name⟩ := id
  cases space with
  | none => exact split_eq_ok_iff.2 ⟨⟨by simp, h.name, h.name_slash⟩, .inr ⟨rfl, rfl⟩⟩
  | some space => exact split_clean ⟨h.space_slash space rfl, h.name, h.name_slash⟩

end Key

section Events

variable {α : Type} [HasMetadata α]

namespace WatchEvent

/-- The event changes what readers may see of an identity: that object is changed or deleted, or a
list is completed. -/
def Concerns (id : ObjectId) : WatchEvent α → Prop
  | .applied object | .deleted object => (HasMetadata.metadata object).objectId? = some id
  | .listCompleted => True
  | .listStarted | .listed _ => False

/-- The event changes what the list under way has of an identity: that object is listed, or a list
begins or is completed. -/
def Relists (id : ObjectId) : WatchEvent α → Prop
  | .listed object => (HasMetadata.metadata object).objectId? = some id
  | .listStarted | .listCompleted => True
  | .applied _ | .deleted _ => False

end WatchEvent

namespace Informer

variable {informer next later : Informer α} {event : WatchEvent α} {events : List (WatchEvent α)}
variable {told : List (Notification α)} {object : α} {id : ObjectId}

/-- The informer after some events; none if one of them is about an object without a name. -/
def after? (informer : Informer α) : List (WatchEvent α) → Option (Informer α)
  | [] => some informer
  | event :: events => (informer.process? event).bind fun step => step.2.after? events

/-- Every event keeps what its changes of stores keep. -/
theorem process_kept {P : Store α → Prop} (hkept : Store.Kept P)
    (h : informer.process? event = some (told, next)) (hstore : P informer.store)
    (hgathered : P informer.gathered) : P next.store ∧ P next.gathered := by
  cases event with
  | listStarted =>
    cases h
    exact ⟨hstore, hkept.empty⟩
  | listCompleted =>
    cases h
    exact ⟨hgathered, hkept.empty⟩
  | listed object =>
    obtain ⟨own, hown, hnext⟩ := Option.bind_eq_some_iff.1 h
    cases hnext
    exact ⟨hstore, hkept.insert hgathered hown⟩
  | applied object =>
    obtain ⟨own, hown, hnext⟩ := Option.bind_eq_some_iff.1 h
    cases hnext
    exact ⟨hkept.insert hstore hown, hgathered⟩
  | deleted object =>
    obtain ⟨own, -, hnext⟩ := Option.bind_eq_some_iff.1 h
    cases hnext
    exact ⟨hkept.erase own hstore, hgathered⟩

/-- Whatever happens to an informer, such as a new one, its stores keep what all changes keep. -/
theorem after_kept {P : Store α → Prop} (hkept : Store.Kept P)
    (h : informer.after? events = some later) (hstore : P informer.store)
    (hgathered : P informer.gathered) : P later.store ∧ P later.gathered := by
  induction events generalizing informer with
  | nil =>
    cases h
    exact ⟨hstore, hgathered⟩
  | cons event events ih =>
    obtain ⟨⟨told, next⟩, hprocess, hrest⟩ := Option.bind_eq_some_iff.1 h
    obtain ⟨hstore, hgathered⟩ := process_kept hkept hprocess hstore hgathered
    exact ih hrest hstore hgathered

/-- Every event keeps the objects of an informer under their own names. -/
theorem process_keyed (h : informer.process? event = some (told, next))
    (hstore : informer.store.Keyed) (hgathered : informer.gathered.Keyed) :
    next.store.Keyed ∧ next.gathered.Keyed :=
  process_kept Store.Keyed.kept h hstore hgathered

/-- What readers see of an identity changes only by events that concern it. -/
theorem process_store_find (h : informer.process? event = some (told, next))
    (hother : ¬ event.Concerns id) : next.store.find? id = informer.store.find? id := by
  cases event with
  | listStarted =>
    cases h
    rfl
  | listed object =>
    obtain ⟨own, -, hnext⟩ := Option.bind_eq_some_iff.1 h
    cases hnext
    rfl
  | listCompleted => exact absurd trivial hother
  | applied object =>
    obtain ⟨own, hown, hnext⟩ := Option.bind_eq_some_iff.1 h
    cases hnext
    have hne : id ≠ own := fun heq => hother (heq ▸ hown)
    rw [Store.find_insert, if_neg hne]
  | deleted object =>
    obtain ⟨own, hown, hnext⟩ := Option.bind_eq_some_iff.1 h
    cases hnext
    have hne : id ≠ own := fun heq => hother (heq ▸ hown)
    rw [Store.find_erase, if_neg hne]

/-- What the list under way has of an identity changes only by events that list it. -/
theorem process_gathered_find (h : informer.process? event = some (told, next))
    (hother : ¬ event.Relists id) : next.gathered.find? id = informer.gathered.find? id := by
  cases event with
  | listStarted | listCompleted => exact absurd trivial hother
  | listed object =>
    obtain ⟨own, hown, hnext⟩ := Option.bind_eq_some_iff.1 h
    cases hnext
    have hne : id ≠ own := fun heq => hother (heq ▸ hown)
    rw [Store.find_insert, if_neg hne]
  | applied object | deleted object =>
    obtain ⟨own, -, hnext⟩ := Option.bind_eq_some_iff.1 h
    cases hnext
    rfl

/-- What readers see of an identity remains through events that do not concern it. -/
theorem after_store_find (h : informer.after? events = some later)
    (hother : ∀ event ∈ events, ¬ event.Concerns id) :
    later.store.find? id = informer.store.find? id := by
  induction events generalizing informer with
  | nil =>
    cases h
    rfl
  | cons event events ih =>
    obtain ⟨⟨told, next⟩, hprocess, hrest⟩ := Option.bind_eq_some_iff.1 h
    rw [ih hrest fun other hmem => hother other (List.mem_cons_of_mem _ hmem),
      process_store_find hprocess (hother event List.mem_cons_self)]

/-- What the list under way has of an identity remains through events that do not list it. -/
theorem after_gathered_find (h : informer.after? events = some later)
    (hother : ∀ event ∈ events, ¬ event.Relists id) :
    later.gathered.find? id = informer.gathered.find? id := by
  induction events generalizing informer with
  | nil =>
    cases h
    rfl
  | cons event events ih =>
    obtain ⟨⟨told, next⟩, hprocess, hrest⟩ := Option.bind_eq_some_iff.1 h
    rw [ih hrest fun other hmem => hother other (List.mem_cons_of_mem _ hmem),
      process_gathered_find hprocess (hother event List.mem_cons_self)]

/-- Events one after the other. -/
theorem after_append (informer : Informer α) (first second : List (WatchEvent α)) :
    informer.after? (first ++ second) = (informer.after? first).bind (·.after? second) := by
  induction first generalizing informer with
  | nil => rfl
  | cons event first ih =>
    rw [List.cons_append, after?, after?]
    cases informer.process? event with
    | none => rfl
    | some step => exact ih step.2

/-- When readers see an object that is told: one that was changed at once, and one that a list has
when the list is complete. -/
inductive Announced (informer next : Informer α) (object : α) (id : ObjectId) :
    WatchEvent α → Prop where
  /-- It is seen from the moment on at which it is told. -/
  | applied (hseen : ∀ events later, next.after? events = some later →
      (∀ event ∈ events, ¬ event.Concerns id) →
      later.store.get? (id.space.getD "") id.name = some object) :
    Announced informer next object id (.applied object)
  /-- At first readers see what they saw before. Once the list is complete the object is seen,
  unless it was listed again or another list was begun. -/
  | listed (hhidden : next.store = informer.store)
      (hseen : ∀ events more later,
        next.after? (events ++ .listCompleted :: more) = some later →
        (∀ event ∈ events, ¬ event.Relists id) → (∀ event ∈ more, ¬ event.Concerns id) →
        later.store.get? (id.space.getD "") id.name = some object) :
    Announced informer next object id (.listed object)

/-- Only a change and a list tell of an object that is there. -/
theorem of_current {notification : Notification α}
    (h : informer.process? event = some (told, next)) (hmem : notification ∈ told)
    (hcurrent : notification.current? = some object) :
    event = .applied object ∨ event = .listed object := by
  cases event with
  | listStarted =>
    cases h
    cases hmem
  | listCompleted =>
    cases h
    obtain ⟨gone, -, rfl⟩ := List.mem_map.1 hmem
    cases hcurrent
  | deleted other =>
    obtain ⟨id, -, hnext⟩ := Option.bind_eq_some_iff.1 h
    cases hnext
    obtain rfl := List.mem_singleton.1 hmem
    cases hcurrent
  | applied other | listed other =>
    obtain ⟨id, -, hnext⟩ := Option.bind_eq_some_iff.1 h
    cases hnext
    obtain rfl := List.mem_singleton.1 hmem
    have hobject : other = object := by
      unfold upsert at hcurrent
      split at hcurrent <;> exact Option.some.inj hcurrent
    simp [hobject]

/-- The key of an object is made from its identity. -/
theorem key_of_id (hid : (HasMetadata.metadata object).objectId? = some id) :
    keyOf object = Key.of id.space id.name := by
  obtain ⟨name, hname, hid⟩ := Option.map_eq_some_iff.1 hid
  rw [← hid, keyOf, Key.ofMetadata, Metadata.displayName, hname, Option.getD_some]

/-- Whatever an informer tells of an object that is there: the key of the object leads to a look-up
that finds the object from the moment on at which readers see it. -/
theorem process_announced {notification : Notification α}
    (h : informer.process? event = some (told, next)) (hmem : notification ∈ told)
    (hcurrent : notification.current? = some object)
    (hid : (HasMetadata.metadata object).objectId? = some id) (hplain : id.Plain) :
    Key.split (keyOf object) = .ok (id.space.getD "", id.name) ∧
      Announced informer next object id event := by
  refine ⟨key_of_id hid ▸ Key.split_of_plain hplain, ?_⟩
  obtain rfl | rfl := of_current h hmem hcurrent
  · refine .applied fun events later hafter hother => hplain.get_of_find ?_
    obtain ⟨own, hown, hnext⟩ := Option.bind_eq_some_iff.1 h
    cases hnext
    rw [hid, Option.some.injEq] at hown
    rw [after_store_find hafter hother, Store.find_insert, if_pos hown]
  · obtain ⟨own, hown, hnext⟩ := Option.bind_eq_some_iff.1 h
    cases hnext
    rw [hid, Option.some.injEq] at hown
    refine .listed rfl fun events more later hafter hlisting hother => hplain.get_of_find ?_
    rw [after_append] at hafter
    obtain ⟨listing, hlist, hrest⟩ := Option.bind_eq_some_iff.1 hafter
    obtain ⟨step, hcompleted, hmore⟩ := Option.bind_eq_some_iff.1 hrest
    -- the completed list is what readers see from then on
    have hstore : step.2.store = listing.gathered := by
      cases hcompleted
      rfl
    rw [after_store_find hmore hother, hstore, after_gathered_find hlist hlisting,
      Store.find_insert, if_pos hown]

end Informer

end Events

namespace Informer

/-- Two versions of a function ingress. -/
def listedShop (host version : String) : FunctionIngress where
  metadata := {
    name := some "shop"
    space := some "web"
    resourceVersion := some version
    uid := some "1" }
  spec := { domain := host, function := "shop" }

/-- A new version that is listed while readers have an old one: they have it still when the new one
is told, and have the new one when the list is complete. -/
theorem process_announced_listed :
    ∃ informer told next, Informer.new.after? [.listStarted, .listed (listedShop "old.example" "1"),
        .listCompleted, .listStarted] = some informer ∧
      informer.process? (.listed (listedShop "new.example" "2")) = some (told, next) ∧
      next.store.get? "web" "shop" = some (listedShop "old.example" "1") ∧
      ∃ completed, next.after? [.listCompleted] = some completed ∧
        completed.store.get? "web" "shop" = some (listedShop "new.example" "2") := by
  obtain ⟨informer, told, next, notification, hafter, hprocess, hmem, hcurrent, hold⟩ :
      ∃ informer told next notification,
        Informer.new.after? [.listStarted, .listed (listedShop "old.example" "1"), .listCompleted,
          .listStarted] = some informer ∧
        informer.process? (.listed (listedShop "new.example" "2")) = some (told, next) ∧
        notification ∈ told ∧ notification.current? = some (listedShop "new.example" "2") ∧
        next.store.get? "web" "shop" = some (listedShop "old.example" "1") :=
    ⟨_, _, _, _, rfl, rfl, List.mem_cons_self, rfl, rfl⟩
  have hplain : ObjectId.Plain ⟨some "web", "shop"⟩ :=
    ⟨by decide, by decide, by simp, by simp⟩
  obtain ⟨-, hannounced⟩ := process_announced hprocess hmem hcurrent rfl hplain
  cases hannounced with
  | listed hhidden hseen =>
    exact ⟨informer, told, next, hafter, hprocess, hold, _, rfl,
      hseen [] [] _ rfl (List.forall_mem_nil _) (List.forall_mem_nil _)⟩

/-- Not all that is told is seen: when a list has an object, the key that is queued for it does not
lead to it. -/
theorem listed_not_visible :
    ¬ ∀ (events : List (WatchEvent FunctionIngress)) informer next event told notification object
        key,
      Informer.new.after? events = some informer →
      informer.process? event = some (told, next) → notification ∈ told →
      notification.current? = some object → primaryRoute? notification = some key →
      Names next.store key object := by
  intro h
  obtain ⟨space, name, hsplit, hget⟩ := h [.listStarted, .listCompleted, .listStarted] _ _
    (.listed (listedShop "shop.example" "1")) _ _ _ "web/shop" rfl rfl List.mem_cons_self rfl
    (by decide +kernel)
  cases hget

end Informer

end FunctionOperator
