import FunctionOperator.Proofs.Resource.Ingress
import Mathlib.Tactic.SplitIfs

/-!
# Where the annotations of an ingress come from

Every annotation of the ingress that a function ingress asks for is one of the function ingress
itself or one that the operator computes from it. Read `FunctionIngress.Sets` and
`FunctionIngress.Computes` first, which list the two sources without a look at the rendering.
`ingress_annotations_iff` says that the first source counts wherever it has a value, that the second
one counts everywhere else, and that there is no third one.
-/

namespace FunctionOperator

namespace FunctionIngressSpec

/-- The class of the ingress. -/
inductive OfClass (spec : FunctionIngressSpec) : String → Prop where
  /-- A class is given. -/
  | given (h : spec.ingressType ≠ "") : OfClass spec spec.ingressType
  /-- No class is given. -/
  | default (h : spec.ingressType = "") : OfClass spec "nginx"

/-- The path of the function at the gateway. -/
inductive AtGateway (spec : FunctionIngressSpec) : String → Prop where
  /-- The function is in the gateway's own namespace. -/
  | plain (h : spec.functionNamespace = "") : AtGateway spec ("/function/" ++ spec.function)
  /-- The namespace of the function is given. -/
  | qualified (h : spec.functionNamespace ≠ "") :
    AtGateway spec ("/function/" ++ (spec.function ++ "." ++ spec.functionNamespace))

/-- The annotations that make a gateway's client find the function: none when the gateway is
bypassed, and otherwise those of the class. -/
inductive Rewrites (spec : FunctionIngressSpec) : String → String → Prop where
  /-- The class `nginx` takes a path with the part that the route has captured. -/
  | nginx {path} (hgateway : spec.bypassGateway = false) (hclass : spec.OfClass "nginx")
      (hpath : spec.AtGateway path) : Rewrites spec IngressKey.nginxTarget (path ++ "/$1")
  /-- The class `skipper` takes a filter. -/
  | skipper {path} (hgateway : spec.bypassGateway = false) (hclass : spec.OfClass "skipper")
      (hpath : spec.AtGateway path) :
      Rewrites spec IngressKey.skipperFilter ("setPath(\"" ++ path ++ "\")")
  /-- The class `traefik` takes the path … -/
  | traefik {path} (hgateway : spec.bypassGateway = false) (hclass : spec.OfClass "traefik")
      (hpath : spec.AtGateway path) : Rewrites spec IngressKey.traefikTarget path
  /-- … and is told that routes are starts of paths. -/
  | traefikRule (hgateway : spec.bypassGateway = false) (hclass : spec.OfClass "traefik") :
      Rewrites spec IngressKey.traefikRuleType "PathPrefix"

/-- The annotation that names the issuer of the certificate. -/
inductive Issues (spec : FunctionIngressSpec) : String → String → Prop where
  /-- The issuer is one of the whole cluster. -/
  | cluster {tls} (htls : spec.tls = some tls) (henabled : tls.enabled = true)
      (hkind : tls.issuerRef.kind = "ClusterIssuer") :
      Issues spec IngressKey.clusterIssuer tls.issuerRef.name
  /-- The issuer is one of a namespace. -/
  | namespaced {tls} (htls : spec.tls = some tls) (henabled : tls.enabled = true)
      (hkind : tls.issuerRef.kind ≠ "ClusterIssuer") :
      Issues spec IngressKey.issuer tls.issuerRef.name

variable {spec : FunctionIngressSpec} {key value : String}

/-- There is one class. -/
theorem of_class_iff {name : String} : spec.OfClass name ↔ spec.ingressClass = name := by
  unfold ingressClass
  constructor
  · rintro (h | h)
    · rw [if_neg (by simpa using h)]
    · rw [if_pos (by simpa using h)]
  · rintro rfl
    split
    · next h => exact .default (by simpa using h)
    · next h => exact .given (by simpa using h)

/-- There is one path at the gateway. -/
theorem at_gateway_iff {path : String} :
    spec.AtGateway path ↔ "/function/" ++ spec.functionAddress = path := by
  unfold functionAddress
  constructor
  · rintro (h | h)
    · rw [if_pos (by simpa using h)]
    · rw [if_neg (by simpa using h)]
  · rintro rfl
    split
    · next h => exact .plain (by simpa using h)
    · next h => exact .qualified (by simpa using h)

/-- The gateway's annotations are those of the class. -/
theorem mem_gateway_annotations : (key, value) ∈ spec.gatewayAnnotations ↔
    spec.Rewrites key value := by
  unfold gatewayAnnotations
  simp only
  constructor
  · intro h
    split_ifs at h with hbypass hnginx hskipper htraefik
    · cases h
    · cases List.mem_singleton.1 h
      exact .nginx (by simpa using hbypass) (of_class_iff.2 hnginx) (at_gateway_iff.2 rfl)
    · cases List.mem_singleton.1 h
      exact .skipper (by simpa using hbypass) (of_class_iff.2 hskipper) (at_gateway_iff.2 rfl)
    · rcases List.mem_cons.1 h with h | h
      · cases h
        exact .traefik (by simpa using hbypass) (of_class_iff.2 htraefik) (at_gateway_iff.2 rfl)
      · cases List.mem_singleton.1 h
        exact .traefikRule (by simpa using hbypass) (of_class_iff.2 htraefik)
    · cases h
  · intro h
    cases h with
    | nginx hgateway hclass hpath =>
      simp [hgateway, of_class_iff.1 hclass, ← at_gateway_iff.1 hpath]
    | skipper hgateway hclass hpath =>
      simp [hgateway, of_class_iff.1 hclass, ← at_gateway_iff.1 hpath]
    | traefik hgateway hclass hpath =>
      simp [hgateway, of_class_iff.1 hclass, ← at_gateway_iff.1 hpath]
    | traefikRule hgateway hclass => simp [hgateway, of_class_iff.1 hclass]

/-- An issuer is named if the ingress is encrypted. -/
theorem mem_issuer_annotations : (key, value) ∈ spec.issuerAnnotations ↔
    spec.Issues key value := by
  unfold issuerAnnotations ObjectReference.isClusterScoped
  constructor
  · intro h
    split at h
    · next tls htls =>
      split_ifs at h with henabled hkind
      · cases List.mem_singleton.1 h
        exact .cluster htls henabled (by simpa [ObjectReference.clusterIssuerKind] using hkind)
      · cases List.mem_singleton.1 h
        exact .namespaced htls henabled (by simpa [ObjectReference.clusterIssuerKind] using hkind)
      · cases h
    · cases h
  · intro h
    cases h with
    | cluster htls henabled hkind =>
      simp [htls, henabled, hkind, ObjectReference.clusterIssuerKind]
    | namespaced htls henabled hkind =>
      simp [htls, henabled, hkind, ObjectReference.clusterIssuerKind]

end FunctionIngressSpec

namespace FunctionIngress

/-- An annotation that the function ingress itself has, and that is no client's note of what it
applied last. -/
def Sets (object : FunctionIngress) (key value : String) : Prop :=
  key ≠ lastAppliedKey ∧ ∃ annotations, object.metadata.annotations = some annotations ∧
    annotations.get? key = some value

/-- An annotation that the operator computes. -/
inductive Computes (object : FunctionIngress) : String → String → Prop where
  /-- The record of the declared state. -/
  | record : Computes object kind.snapshotKey ((Snapshot.capture object).encode kind)
  /-- The class. -/
  | className {name} (h : object.spec.OfClass name) : Computes object IngressKey.ingressClass name
  /-- The way to the function at the gateway. -/
  | rewrite {key value} (h : object.spec.Rewrites key value) : Computes object key value
  /-- The issuer of the certificate. -/
  | issuer {key value} (h : object.spec.Issues key value) : Computes object key value

variable {object : FunctionIngress} {key value : String}

/-- What the function ingress itself has is what counts as its annotations. -/
theorem get_user_annotations_iff :
    object.metadata.userAnnotations.get? key = some value ↔ object.Sets key value := by
  unfold Metadata.userAnnotations Sets
  rw [SortedMap.get?_erase, SortedMap.get?_get_or_empty, ← Option.bind_eq_some_iff]
  by_cases hkey : key = lastAppliedKey <;> simp [hkey]

/-- The entries that the operator computes, in the order in which they are put in. The class is left
out where the function ingress has one of its own. -/
def computedEntries (object : FunctionIngress) : List (String × String) :=
  (kind.snapshotKey, (Snapshot.capture object).encode kind) ::
    (if object.metadata.userAnnotations.contains IngressKey.ingressClass then []
      else [(IngressKey.ingressClass, object.spec.ingressClass)]) ++
    object.spec.gatewayAnnotations ++ object.spec.issuerAnnotations

/-- No key is computed twice: the keys are some of the operator's own, in their order. -/
theorem computed_entries_nodup (object : FunctionIngress) :
    (object.computedEntries.map (·.1)).Nodup := by
  have hmanaged : IngressKey.managed.Nodup := by decide
  refine hmanaged.sublist ?_
  have hclass : ((if object.metadata.userAnnotations.contains IngressKey.ingressClass then []
      else [(IngressKey.ingressClass, object.spec.ingressClass)]).map Prod.fst).Sublist
        [IngressKey.ingressClass] := by
    split <;> simp
  have hgateway : (object.spec.gatewayAnnotations.map Prod.fst).Sublist
      [IngressKey.nginxTarget, IngressKey.skipperFilter, IngressKey.traefikTarget,
        IngressKey.traefikRuleType] := by
    unfold FunctionIngressSpec.gatewayAnnotations
    simp only
    split_ifs <;> simp only [List.map_cons, List.map_nil] <;> decide
  have hissuer : (object.spec.issuerAnnotations.map Prod.fst).Sublist
      [IngressKey.clusterIssuer, IngressKey.issuer] := by
    unfold FunctionIngressSpec.issuerAnnotations
    split
    · split_ifs <;> simp only [List.map_cons, List.map_nil] <;> decide
    · simp
  unfold computedEntries
  rw [List.map_append, List.map_append, List.map_cons]
  exact ((hclass.cons_cons _).append hgateway).append hissuer

/-- Where the function ingress has no annotation of its own, the entries are what the operator
computes. -/
theorem mem_computed_entries (h : object.metadata.userAnnotations.get? key = none) :
    (key, value) ∈ object.computedEntries ↔ object.Computes key value := by
  unfold computedEntries
  rw [List.cons_append, List.cons_append, List.mem_cons, List.mem_append, List.mem_append,
    FunctionIngressSpec.mem_gateway_annotations, FunctionIngressSpec.mem_issuer_annotations]
  constructor
  · rintro (hrecord | (hclass | hrewrite) | hissuer)
    · cases hrecord
      exact .record
    · split at hclass
      · cases hclass
      · cases List.mem_singleton.1 hclass
        exact .className (FunctionIngressSpec.of_class_iff.2 rfl)
    · exact .rewrite hrewrite
    · exact .issuer hissuer
  · intro hcomputes
    cases hcomputes with
    | record => exact .inl rfl
    | className hclass =>
      have habsent : object.metadata.userAnnotations.contains IngressKey.ingressClass = false := by
        rw [SortedMap.contains, h, Option.isSome_none]
      rw [habsent, ← FunctionIngressSpec.of_class_iff.1 hclass]
      exact .inr (.inl (.inl (List.mem_singleton.2 rfl)))
    | rewrite hrewrite => exact .inr (.inl (.inr hrewrite))
    | issuer hissuer => exact .inr (.inr hissuer)

end FunctionIngress

/-- For every function ingress the ingress has exactly these annotations: those of the function
ingress itself, and under each key that it does not have the one that the operator computes. -/
theorem ingress_annotations_iff (object : FunctionIngress) (key value : String) :
    (ingressAnnotations object).get? key = some value ↔
      object.Sets key value ∨ (∀ own, ¬ object.Sets key own) ∧ object.Computes key value := by
  have hrendered : ingressAnnotations object =
      (SortedMap.ofList object.computedEntries).overlay object.metadata.userAnnotations := rfl
  rw [hrendered, SortedMap.get?_overlay, Option.or_eq_some_iff,
    SortedMap.get?_of_list_iff object.computed_entries_nodup]
  simp only [← FunctionIngress.get_user_annotations_iff]
  constructor
  · rintro (hown | ⟨hnone, hcomputed⟩)
    · exact .inl hown
    · exact .inr ⟨by simp [hnone], (FunctionIngress.mem_computed_entries hnone).1 hcomputed⟩
  · rintro (hown | ⟨hothers, hcomputes⟩)
    · exact .inl hown
    · have hnone : object.metadata.userAnnotations.get? key = none :=
        Option.eq_none_iff_forall_ne_some.2 hothers
      exact .inr ⟨hnone, (FunctionIngress.mem_computed_entries hnone).2 hcomputes⟩

end FunctionOperator
