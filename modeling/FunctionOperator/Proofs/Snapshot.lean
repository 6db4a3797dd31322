import FunctionOperator.Proofs.Json.Codecs
import FunctionOperator.Rendering.Ingress
import FunctionOperator.Resource.Function
import Mathlib.Tactic.SplitIfs

/-!
# Recorded states are recovered

What an annotation records of a declared object is what is read from it. Read
`Snapshot.recover_encode` first; it holds for every kind whose specs are restored, and
`FunctionIngressSpec.restores` and `FunctionSpec.restores` say for which specs this is so.
-/

namespace FunctionOperator

/-! ## Specs -/

/-- References are restored. -/
theorem ObjectReference.restores (reference : ObjectReference) :
    ObjectReference.codec.Restores 1 reference := by
  refine Record.closed_restores (by decide) ?_
  refine .defaulted (Codec.string_restores 0 _) ?_
  refine .omitted (Codec.string_restores 0 _) (fun hempty => ?_) .nil
  simp_all [record]

/-- The options for encryption are restored. -/
theorem TlsOptions.restores (options : TlsOptions) : TlsOptions.codec.Restores 2 options := by
  refine Record.closed_restores (by decide) ?_
  refine .defaulted (Codec.bool_restores 1 _) ?_
  exact .defaulted (ObjectReference.restores _) .nil

/-- The specs of function ingresses are restored. -/
theorem FunctionIngressSpec.restores (spec : FunctionIngressSpec) :
    FunctionIngressSpec.codec.Restores 3 spec := by
  refine Record.closed_restores (by decide) ?_
  refine .required (Codec.string_restores 2 _) ?_
  refine .required (Codec.string_restores 2 _) ?_
  refine .omitted (Codec.string_restores 2 _) (fun hempty => ?_) ?_
  · simp_all [record]
  refine .omitted (Codec.string_restores 2 _) (fun hempty => ?_) ?_
  · simp_all [record]
  refine .omitted (Codec.string_restores 2 _) (fun hempty => ?_) ?_
  · simp_all [record]
  refine .maybe (fun options _ => ⟨options.restores, nofun⟩) rfl ?_
  refine .omitted (Codec.bool_restores 2 _) (fun hfalse => ?_) .nil
  simp_all [record]

/-- Quantities are restored. -/
theorem FunctionResources.restores (resources : FunctionResources) :
    FunctionResources.codec.Restores 1 resources := by
  refine Record.closed_restores (by decide) ?_
  refine .omitted (Codec.string_restores 0 _) (fun hempty => ?_) ?_
  · simp_all [record]
  refine .omitted (Codec.string_restores 0 _) (fun hempty => ?_) .nil
  simp_all [record]

namespace FunctionSpec

/-- The number of replicas has 32 bits, as in every spec that is read. -/
def InRange (spec : FunctionSpec) : Prop :=
  ∀ replicas ∈ spec.replicas, -2_147_483_648 ≤ replicas ∧ replicas ≤ 2_147_483_647

/-- The specs of functions are restored. -/
theorem restores {spec : FunctionSpec} (h : spec.InRange) :
    FunctionSpec.codec.Restores 2 spec := by
  have htexts : ∀ texts : TextMap, Codec.textMap.Restores 1 texts := fun texts =>
    Codec.map_restores fun _ _ => Codec.string_restores 0 _
  have hlist : ∀ texts : List String, Codec.string.list.Restores 1 texts := fun texts =>
    Codec.list_restores fun _ _ => Codec.string_restores 0 _
  refine Record.closed_restores (by decide) ?_
  refine .required (Codec.string_restores 1 _) ?_
  refine .required (Codec.string_restores 1 _) ?_
  refine .maybe (fun replicas hreplicas =>
    ⟨Codec.int_restores 1 (by decide) (by decide) (h replicas hreplicas), nofun⟩) rfl ?_
  refine .omitted (Codec.string_restores 1 _) (fun hempty => ?_) ?_
  · simp_all [record]
  refine .maybe (fun texts _ => ⟨htexts texts, nofun⟩) rfl ?_
  refine .maybe (fun texts _ => ⟨htexts texts, nofun⟩) rfl ?_
  refine .maybe (fun texts _ => ⟨htexts texts, nofun⟩) rfl ?_
  refine .omitted (hlist _) (fun hempty => ?_) ?_
  · simp_all [record]
  refine .omitted (hlist _) (fun hempty => ?_) ?_
  · simp_all [record]
  refine .maybe (fun resources _ => ⟨resources.restores, nofun⟩) rfl ?_
  refine .maybe (fun resources _ => ⟨resources.restores, nofun⟩) rfl ?_
  refine .omitted (Codec.bool_restores 1 _) (fun hfalse => ?_) .nil
  simp_all [record]

end FunctionSpec

/-! ## Snapshots -/

/-- Recorded metadata are restored. -/
theorem SnapshotMetadata.restores (metadata : SnapshotMetadata) :
    SnapshotMetadata.codec.Restores 2 metadata := by
  refine Record.closed_restores (by decide) ?_
  refine .omitted (Codec.string_restores 1 _) (fun hempty => ?_) ?_
  · simp_all [record]
  refine .omitted (Codec.string_restores 1 _) (fun hempty => ?_) ?_
  · simp_all [record]
  have hannotations : Codec.textMap.Restores 1 metadata.annotations :=
    Codec.map_restores fun _ _ => Codec.string_restores 0 _
  refine .omitted hannotations (fun hempty => ?_) .nil
  have hnone : metadata.annotations = ∅ :=
    SortedMap.eq_of_entries_eq (List.isEmpty_iff.1 hempty)
  simp [hnone, record]

/-- The text of an object is not empty. -/
theorem Json.render_object_not_empty (members : List (String × Json)) :
    (Json.object members).render.isEmpty = false := by
  refine Bool.eq_false_iff.2 fun hempty => ?_
  have hnil : (Json.object members).render.toList = [] := by
    rw [String.isEmpty_iff.1 hempty]
    rfl
  cases members <;> simp [render, chars] at hnil

namespace Snapshot

variable {σ : Type} {kind : PrimaryKind σ}

/-- A snapshot is restored if its spec is. -/
theorem restores {snapshot : Snapshot σ} {levels : Nat}
    (hspec : kind.spec.Restores levels snapshot.spec) (hlevels : 2 ≤ levels) :
    (codec kind).Restores (levels + 1) snapshot := by
  refine Record.closed_restores (show ["metadata", "spec"].Nodup by decide) ?_
  refine .defaulted ((SnapshotMetadata.restores _).mono hlevels) ?_
  exact .defaulted hspec .nil

/-- A text that is not empty and is read as a snapshot is recovered as this snapshot, without what is
no part of a declared state. -/
theorem recover_of_read {text : String} {annotations : TextMap} {snapshot : Snapshot σ}
    (hget : annotations.get? kind.snapshotKey = some text) (htext : text.isEmpty = false)
    (hread : (Document.ofText text).read (codec kind).read = .ok snapshot) :
    recover kind (some annotations) = .ok snapshot.withoutLastApplied := by
  have hfound : (annotations.get? kind.snapshotKey).filter (!·.isEmpty) = some text := by
    rw [hget, Option.filter_some_pos (by simp [htext])]
  rw [recover, Option.bind_some, hfound]
  show ((decode kind text).mapError _) = _
  rw [decode, hread]
  rfl

/-- What an annotation records is recovered, without what is no part of a declared state. -/
theorem recover_encode {snapshot : Snapshot σ} {levels : Nat} {annotations : TextMap}
    (hspec : kind.spec.Restores levels snapshot.spec) (hmin : 2 ≤ levels)
    (hmax : levels < Draft.deepest)
    (hget : annotations.get? kind.snapshotKey = some (encode kind snapshot)) :
    recover kind (some annotations) = .ok snapshot.withoutLastApplied :=
  recover_of_read hget (Json.render_object_not_empty _) ((restores hspec hmin).of_text hmax)

/-- A declared state has nothing that is no part of it. -/
theorem capture_without_last_applied (object : Primary σ) :
    (capture object).withoutLastApplied = capture object := by
  simp [withoutLastApplied, capture, Metadata.userAnnotations, SortedMap.erase_erase]

/-- A declared state agrees with its own snapshot. -/
theorem agrees_self [DecidableEq σ] (snapshot : Snapshot σ) : snapshot.agrees snapshot = true := by
  simp [agrees]

end Snapshot

/-! ## Annotations of ingresses -/

namespace FunctionIngressSpec

/-- The annotations that a spec leads to are no records. -/
theorem gateway_annotations_ne (spec : FunctionIngressSpec) :
    ∀ entry ∈ spec.gatewayAnnotations, FunctionIngress.kind.snapshotKey ≠ entry.1 := by
  unfold gatewayAnnotations
  simp only
  split_ifs <;> simp only [List.not_mem_nil, List.mem_cons, or_false, false_implies, implies_true,
    forall_eq, forall_eq_or_imp] <;> decide

/-- The annotation that names an issuer is no record. -/
theorem issuer_annotations_ne (spec : FunctionIngressSpec) :
    ∀ entry ∈ spec.issuerAnnotations, FunctionIngress.kind.snapshotKey ≠ entry.1 := by
  unfold issuerAnnotations
  split
  · split_ifs <;> simp only [List.not_mem_nil, List.mem_cons, or_false, false_implies,
      implies_true, forall_eq] <;> decide
  · nofun

end FunctionIngressSpec

/-- The ingress of a function ingress records its declared state, unless an annotation of the
function ingress itself stands in the place of the record. -/
theorem ingress_annotations_record {object : FunctionIngress}
    (h : object.metadata.userAnnotations.get? FunctionIngress.kind.snapshotKey = none) :
    (ingressAnnotations object).get? FunctionIngress.kind.snapshotKey =
      some ((Snapshot.capture object).encode FunctionIngress.kind) := by
  have hothers : ∀ entry ∈ (if object.metadata.userAnnotations.contains IngressKey.ingressClass
      then [] else [(IngressKey.ingressClass, object.spec.ingressClass)]) ++
        object.spec.gatewayAnnotations ++ object.spec.issuerAnnotations,
      FunctionIngress.kind.snapshotKey ≠ entry.1 := by
    intro entry hentry
    rw [List.mem_append, List.mem_append] at hentry
    rcases hentry with (hclass | hgateway) | hissuer
    · split_ifs at hclass
      · cases hclass
      · rw [List.mem_singleton.1 hclass]
        show FunctionIngress.kind.snapshotKey ≠ IngressKey.ingressClass
        decide
    · exact object.spec.gateway_annotations_ne entry hgateway
    · exact object.spec.issuer_annotations_ne entry hissuer
  rw [ingressAnnotations, SortedMap.get?_overlay, h, Option.none_or, List.cons_append,
    List.cons_append]
  refine (SortedMap.get?_insert_many_of_ne hothers _).trans ?_
  rw [SortedMap.get?_insert, if_pos rfl]

end FunctionOperator
