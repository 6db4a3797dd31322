import FunctionOperator.Ownership
import FunctionOperator.Resource.Function
import FunctionOperator.Resource.FunctionIngress

/-!
# Setting the controller

What it means for the metadata of an object that its controller is set. Read `set_controller_eq` and
`set_controller_over` first: nothing but the owners changes, and what was set before leaves no
trace. `Metadata.HandedOver` puts together what an object is after it was handed to an owner, and
`handed_to_owner` says that every object is so, whoever owned it before.
-/

namespace FunctionOperator

/-- The reference that makes an object the owner of another one makes it its controller. -/
theorem PrimaryKind.owner_reference_controls {σ : Type} (kind : PrimaryKind σ) (owner : Metadata) :
    ∀ reference ∈ (kind.ownerReference? owner).toList, reference.isController = true := by
  intro reference hreference
  obtain ⟨name, -, huid⟩ := Option.bind_eq_some_iff.1 (Option.mem_toList.1 hreference)
  obtain ⟨uid, -, hrefers⟩ := Option.bind_eq_some_iff.1 huid
  cases hrefers
  rfl

/-- A stored object can be an owner. -/
theorem PrimaryKind.owner_reference_eq {σ : Type} (kind : PrimaryKind σ) {owner : Metadata}
    {name uid : String} (hname : owner.name = some name) (huid : owner.uid = some uid) :
    kind.ownerReference? owner =
      some ⟨kind.apiVersion, some true, some true, kind.kind, name, uid⟩ := by
  simp [ownerReference?, hname, huid]

namespace Metadata

/-- Setting the controller changes nothing but the owners. -/
theorem set_controller_eq (metadata : Metadata) (owners : List OwnerReference) :
    metadata.setController owners =
      { metadata with ownerReferences := (metadata.setController owners).ownerReferences } := by
  unfold setController
  split <;> rfl

/-- What the owners are set to is put behind the owners that do not control the object. -/
theorem set_controller_of_ne_nil (metadata : Metadata) {owners : List OwnerReference}
    (h : owners ≠ []) : metadata.setController owners = { metadata with
      ownerReferences := some (metadata.owners.filter (!·.isController) ++ owners) } := by
  rw [setController, if_neg (by simpa using h)]

/-- Setting the controller leaves the owners that do not control the object. -/
theorem others_set_controller (metadata : Metadata) {owners : List OwnerReference}
    (h : ∀ owner ∈ owners, owner.isController = true) :
    (metadata.setController owners).owners.filter (!·.isController) =
      metadata.owners.filter (!·.isController) := by
  by_cases hnil : owners = []
  · subst hnil
    rfl
  · have hnone : owners.filter (!·.isController) = [] :=
      List.filter_eq_nil_iff.2 fun owner howner => by simp [h owner howner]
    rw [metadata.set_controller_of_ne_nil hnil]
    show (metadata.owners.filter _ ++ owners).filter _ = _
    rw [List.filter_append, hnone, List.append_nil, List.filter_filter]
    simp only [Bool.and_self]

/-- Setting the controller leaves no trace of a controller that was set before. -/
theorem set_controller_over (metadata : Metadata) {former owners : List OwnerReference}
    (hformer : ∀ owner ∈ former, owner.isController = true) (howners : owners ≠ []) :
    (metadata.setController former).setController owners = metadata.setController owners := by
  rw [set_controller_of_ne_nil _ howners, set_controller_of_ne_nil _ howners,
    metadata.others_set_controller hformer, metadata.set_controller_eq former]

/-- Setting the controller twice is setting it once. -/
theorem set_controller_twice (metadata : Metadata) {owners : List OwnerReference}
    (h : ∀ owner ∈ owners, owner.isController = true) :
    (metadata.setController owners).setController owners = metadata.setController owners := by
  by_cases howners : owners = []
  · subst howners
    rfl
  · exact metadata.set_controller_over h howners

/-- What the controller is set to controls the object. -/
theorem controller_set_controller (metadata : Metadata) {reference : OwnerReference}
    (h : reference.isController = true) :
    (metadata.setController [reference]).controller? = some reference := by
  have hothers : (metadata.owners.filter (!·.isController)).find? OwnerReference.isController =
      none := by
    refine List.find?_eq_none.2 fun other hother => ?_
    simpa using (List.mem_filter.1 hother).2
  show List.find? _ (metadata.owners.filter _ ++ [reference]) = _
  rw [List.find?_append, hothers, Option.none_or, List.find?_singleton, h, if_pos rfl]

/-- An object is controlled by the owners of its controller's kind and identity. -/
theorem controlled_iff {metadata other : Metadata} {reference : OwnerReference}
    (h : metadata.controller? = some reference) (otherKind : String) :
    metadata.isControlledBy otherKind other = true ↔
      otherKind = reference.kind ∧ other.uid = some reference.uid := by
  rw [isControlledBy, h]
  simp only [Bool.and_eq_true, beq_iff_eq]
  exact and_congr_left' eq_comm

/-- The owners of an object that has at most one. -/
theorem owners_of_reference {metadata : Metadata} {reference : Option OwnerReference}
    (h : metadata.ownerReferences = reference.map ([·])) : metadata.owners = reference.toList := by
  rw [owners, h]
  cases reference <;> rfl

variable {σ : Type} {kind : PrimaryKind σ} {owner : Metadata}

/-- A new object whose only owner is a stored object is controlled by it. -/
theorem controlled_of_owner {metadata : Metadata} (hname : owner.name.isSome = true)
    (huid : owner.uid.isSome = true)
    (h : metadata.owners = (kind.ownerReference? owner).toList) :
    metadata.isControlledBy kind.kind owner = true := by
  obtain ⟨name, hname⟩ := Option.isSome_iff_exists.1 hname
  obtain ⟨uid, huid⟩ := Option.isSome_iff_exists.1 huid
  have hcontroller : metadata.controller? =
      some ⟨kind.apiVersion, some true, some true, kind.kind, name, uid⟩ := by
    rw [controller?, h, kind.owner_reference_eq hname huid]
    rfl
  exact (controlled_iff hcontroller kind.kind).2 ⟨rfl, huid⟩

/-- An object whose controller is set to a stored object is controlled by it. -/
theorem controlled_of_set_controller (metadata : Metadata) (hname : owner.name.isSome = true)
    (huid : owner.uid.isSome = true) :
    (metadata.setController (kind.ownerReference? owner).toList).isControlledBy kind.kind owner =
      true := by
  obtain ⟨name, hname⟩ := Option.isSome_iff_exists.1 hname
  obtain ⟨uid, huid⟩ := Option.isSome_iff_exists.1 huid
  rw [kind.owner_reference_eq hname huid]
  exact (controlled_iff (controller_set_controller metadata rfl) kind.kind).2 ⟨rfl, huid⟩

/-! ## Handing an object to an owner -/

/-- The metadata of an object that is handed to an owner. -/
def handedTo (metadata : Metadata) (kind : PrimaryKind σ) (owner : Metadata) : Metadata :=
  metadata.setController (kind.ownerReference? owner).toList

/-- What has become of the metadata of an object when a reference was made its controller. -/
structure HandedOver (before after : Metadata) (reference : OwnerReference) : Prop where
  /-- The reference is the only one that controls the object. -/
  once : after.owners.filter (·.controller = some true) = [reference]
  /-- It is the one that counts as the controller. -/
  counts : after.controller? = some reference
  /-- The owners that control nothing are those from before, in their order. -/
  others : after.owners.filter (·.controller ≠ some true) =
    before.owners.filter (·.controller ≠ some true)
  /-- Nothing but the owners has changed. -/
  rest : after = { before with ownerReferences := after.ownerReferences }

/-- The owners of an object that control it, and those that do not. -/
theorem filter_controller (owners : List OwnerReference) :
    owners.filter (·.controller = some true) = owners.filter (·.isController) ∧
      owners.filter (·.controller ≠ some true) = owners.filter (!·.isController) := by
  constructor <;> refine List.filter_congr fun owner _ => ?_ <;>
    rw [OwnerReference.isController] <;>
    cases owner.controller <;> simp

/-- What controls an object after its controller was set is what it was set to. -/
theorem handed_over (metadata : Metadata) {reference : OwnerReference}
    (h : reference.isController = true) :
    metadata.HandedOver (metadata.setController [reference]) reference := by
  have hone : ∀ owner ∈ [reference], owner.isController = true := by simpa using h
  have hnone : (metadata.owners.filter (!·.isController)).filter (·.isController) = [] := by
    rw [List.filter_filter]
    exact List.filter_eq_nil_iff.2 fun owner _ => by simp
  refine ⟨?_, controller_set_controller metadata h, ?_, set_controller_eq metadata [reference]⟩
  · rw [(filter_controller _).1]
    show (metadata.owners.filter _ ++ [reference]).filter _ = _
    rw [List.filter_append, hnone, List.filter_eq_self.2 hone, List.nil_append]
  · rw [(filter_controller _).2, (filter_controller _).2, metadata.others_set_controller hone]

/-- Every object can be handed to a stored one. Then this is its only controller, and the object is
controlled by what is of its kind and has its identity and by nothing else; the other owners and the
rest of the metadata stay as they were. Handing it over once more changes nothing, and whoever it
was handed to before has left no trace. -/
theorem handed_to_owner (metadata : Metadata) (kind : PrimaryKind σ) {owner : Metadata}
    (hname : owner.name.isSome = true) (huid : owner.uid.isSome = true) :
    (∃ reference, kind.ownerReference? owner = some reference ∧
      metadata.HandedOver (metadata.handedTo kind owner) reference) ∧
    (∀ (τ : Type) (otherKind : PrimaryKind τ) (other : Metadata),
      (metadata.handedTo kind owner).isControlledBy otherKind.kind other = true ↔
        otherKind.kind = kind.kind ∧ other.uid = owner.uid) ∧
    (metadata.handedTo kind owner).handedTo kind owner = metadata.handedTo kind owner ∧
    ∀ (τ : Type) (formerKind : PrimaryKind τ) (former : Metadata),
      (metadata.handedTo formerKind former).handedTo kind owner =
        metadata.handedTo kind owner := by
  obtain ⟨name, hname⟩ := Option.isSome_iff_exists.1 hname
  obtain ⟨uid, huid⟩ := Option.isSome_iff_exists.1 huid
  have howner := kind.owner_reference_eq hname huid
  have hlist : (kind.ownerReference? owner).toList ≠ [] := by simp [howner]
  have hover : metadata.HandedOver (metadata.handedTo kind owner)
      ⟨kind.apiVersion, some true, some true, kind.kind, name, uid⟩ := by
    rw [handedTo, howner]
    exact metadata.handed_over rfl
  refine ⟨⟨_, howner, hover⟩, fun τ otherKind other => ?_, ?_, fun τ formerKind former => ?_⟩
  · rw [controlled_iff hover.counts, huid]
  · exact metadata.set_controller_twice (kind.owner_reference_controls owner)
  · exact metadata.set_controller_over (formerKind.owner_reference_controls former) hlist

/-- The metadata of a stored object. -/
def stored : Metadata where
  name := some "shop"
  uid := some "1"

/-- Metadata with owners of every sort: two that control, one that says that it does not, and one
that says nothing but is the stored object. -/
def crowded : Metadata where
  name := some "shop"
  ownerReferences := some [⟨"openfaas.com/v1", some true, some true, "FunctionIngress", "shop", "0"⟩,
    ⟨"openfaas.com/v1", none, none, "FunctionIngress", "shop", "1"⟩,
    ⟨"openfaas.com/v1alpha2", none, some true, "Function", "shop", "1"⟩,
    ⟨"v1", none, some false, "ConfigMap", "catalog", "7"⟩]

/-- A crowded object is handed to the stored one. -/
theorem handed_to_owner_crowded :
    (stored.name.isSome = true ∧ stored.uid.isSome = true) ∧
    (crowded.handedTo FunctionIngress.kind stored).owners =
      [⟨"openfaas.com/v1", none, none, "FunctionIngress", "shop", "1"⟩,
        ⟨"v1", none, some false, "ConfigMap", "catalog", "7"⟩,
        ⟨"openfaas.com/v1", some true, some true, "FunctionIngress", "shop", "1"⟩] ∧
    (crowded.handedTo FunctionIngress.kind stored).isControlledBy FunctionIngress.kind.kind stored =
      true ∧
    (crowded.handedTo FunctionIngress.kind stored).isControlledBy Function.kind.kind stored =
      false ∧
    (crowded.handedTo Function.kind stored).handedTo FunctionIngress.kind stored =
      crowded.handedTo FunctionIngress.kind stored := by
  obtain ⟨-, hcontrolled, -, hformer⟩ :=
    crowded.handed_to_owner FunctionIngress.kind (show stored.name.isSome = true from rfl) rfl
  refine ⟨⟨rfl, rfl⟩, rfl, (hcontrolled _ FunctionIngress.kind stored).2 ⟨rfl, rfl⟩, ?_,
    hformer _ Function.kind stored⟩
  have hother : Function.kind.kind ≠ FunctionIngress.kind.kind := by decide
  exact Bool.eq_false_iff.2 fun h => hother ((hcontrolled _ Function.kind stored).1 h).1

end Metadata

end FunctionOperator
