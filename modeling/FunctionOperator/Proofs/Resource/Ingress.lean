import FunctionOperator.Proofs.Json.Members
import FunctionOperator.Proofs.Ownership
import FunctionOperator.Resource.Ingress

/-!
# Ingresses that are brought up to date

A missing ingress is created, and a stored one is brought up to date in place. Read
`Ingress.UpToDate` first, which lists what `converge_up_to_date` proves: both ways lead to the same
routes, certificates and annotations of the operator's own, whatever the stored ingress was, and
nothing else of it changes. No form of the stored data is assumed.
-/

namespace FunctionOperator

/-- The annotations that are the operator's own: the record of the declared state, the class, and
those that only some specs lead to. -/
def IngressKey.managed : List String :=
  FunctionIngress.kind.snapshotKey :: ingressClass :: conditional

/-- A record and a class are always wanted. -/
theorem ingress_annotations_managed (object : FunctionIngress) {key : String}
    (hkey : key ∈ IngressKey.managed) (hconditional : key ∉ IngressKey.conditional) :
    (ingressAnnotations object).get? key ≠ none := by
  intro hnone
  rw [ingressAnnotations, SortedMap.get?_overlay, Option.or_eq_none_iff] at hnone
  obtain ⟨huser, hown⟩ := hnone
  have hentries := (SortedMap.get?_insert_many_eq_none.1 hown).2
  rcases List.mem_cons.1 hkey with rfl | hkey
  · exact hentries (FunctionIngress.kind.snapshotKey,
      (Snapshot.capture object).encode FunctionIngress.kind) (by simp) rfl
  · rcases List.mem_cons.1 hkey with rfl | hkey
    · have hclass : object.metadata.userAnnotations.contains IngressKey.ingressClass = false := by
        rw [SortedMap.contains, huser, Option.isSome_none]
      rw [hclass] at hentries
      exact hentries (IngressKey.ingressClass, object.spec.ingressClass) (by simp) rfl
    · exact hconditional hkey

namespace Ingress

variable {api : IngressApi} {desired : DesiredIngress}

/-- The value of an annotation. -/
def annotation? (ingress : Ingress) (key : String) : Option String :=
  ingress.metadata.annotations.bind (·.get? key)

/-! ## Annotations -/

/-- A wanted annotation counts; of the others those survive that no spec leads to. -/
theorem get?_converge_annotations (existing : Option TextMap) (desired : TextMap) (key : String) :
    (convergeAnnotations existing desired).get? key =
      (desired.get? key).or
        ((existing.bind (·.get? key)).filter fun _ => !IngressKey.conditional.contains key) := by
  rw [convergeAnnotations, SortedMap.get?_overlay, SortedMap.get?_filter]
  cases existing <;> rfl

/-- Annotations that were brought up to date are so. -/
theorem converge_annotations_twice (existing : Option TextMap) (desired : TextMap) :
    convergeAnnotations (some (convergeAnnotations existing desired)) desired =
      convergeAnnotations existing desired := by
  refine SortedMap.eq_of_get?_eq fun key => ?_
  rw [get?_converge_annotations, Option.bind_some, get?_converge_annotations]
  cases desired.get? key with
  | some value => rfl
  | none => simp only [Option.none_or, Option.filter_filter, Bool.and_self]

/-! ## Rules and certificates -/

/-- The members of a spec that was brought up to date, in terms of those before. -/
theorem converge_spec_eq (spec : Json) :
    convergeSpec api desired spec = .object
      (if desired.tls.isEmpty then
        (Json.setMember "rules" (rulesJson api desired.rules) (spec.members?.getD [])).filter
          fun entry => entry.1 != "tls"
      else Json.setMember "tls" (tlsJson desired.tls)
        (Json.setMember "rules" (rulesJson api desired.rules) (spec.members?.getD []))) := by
  cases spec <;> (unfold convergeSpec; cases desired.tls.isEmpty <;> rfl)

/-- A spec that was brought up to date has the wanted rules and certificates, and its other members
as they were. -/
theorem get?_converge_spec (spec : Json) (name : String) :
    (convergeSpec api desired spec).get? name =
      if name = "rules" then some (rulesJson api desired.rules)
      else if name = "tls" then if desired.tls.isEmpty then none else some (tlsJson desired.tls)
      else spec.get? name := by
  have hmembers : (spec.members?.getD []).lookup name = spec.get? name := by
    cases spec <;> rfl
  rw [converge_spec_eq, Json.get?]
  split
  · rw [Json.lookup_remove_member, Json.lookup_set_member, hmembers]
    by_cases htls : name = "tls"
    · subst htls
      simp
    · simp [htls]
  · rw [Json.lookup_set_member, Json.lookup_set_member, hmembers]
    by_cases htls : name = "tls"
    · subst htls
      simp
    · simp [htls]

/-- A spec that was brought up to date is so. -/
theorem converge_spec_twice (spec : Json) :
    convergeSpec api desired (convergeSpec api desired spec) = convergeSpec api desired spec := by
  have hrules := Json.settled_set_member "rules" (rulesJson api desired.rules)
    (spec.members?.getD [])
  rw [converge_spec_eq spec, converge_spec_eq, Json.members?, Option.getD_some]
  split
  · have hkept := hrules.remove (show "rules" ≠ "tls" by decide)
    rw [hkept.eq]
    simp [List.filter_filter]
  · have hkept := hrules.set (show "rules" < "tls" by decide) (tlsJson desired.tls)
    rw [hkept.eq, (Json.settled_set_member _ _ _).eq]

/-- The value at a path of two names. -/
theorem at?_pair (value : Json) (first second : String) :
    value.at? [first, second] = (value.get? first).bind (·.get? second) := by
  simp only [Json.at?, Option.bind_fun_some]

/-- The data of an ingress that was brought up to date. -/
theorem converge_data (existing : Ingress) :
    (converge api existing desired).data = .object
      (Json.setMember "spec" (convergeSpec api desired ((existing.data.get? "spec").getD .null))
        (existing.data.members?.getD [])) := by
  unfold converge
  cases existing.data <;> rfl

/-- An ingress that was brought up to date has another spec and its other data as they were. -/
theorem get?_converge_data (existing : Ingress) (name : String) :
    (converge api existing desired).data.get? name =
      if name = "spec" then
        some (convergeSpec api desired ((existing.data.get? "spec").getD .null))
      else existing.data.get? name := by
  rw [converge_data, Json.get?, Json.lookup_set_member]
  cases existing.data <;> rfl

/-- The rules and certificates are those of a new ingress. -/
theorem at?_converge_eq_build (existing : Ingress) {name : String}
    (h : name = "rules" ∨ name = "tls") :
    (converge api existing desired).data.at? ["spec", name] =
      (build api desired).data.at? ["spec", name] := by
  have hbuild : (build api desired).data.get? "spec" =
      some (convergeSpec api desired (.object [])) := rfl
  rw [at?_pair, at?_pair, get?_converge_data, if_pos rfl, hbuild, Option.bind_some,
    Option.bind_some, get?_converge_spec, get?_converge_spec]
  rcases h with rfl | rfl
  · rw [if_pos rfl, if_pos rfl]
  · have htls : ("tls" : String) ≠ "rules" := by decide
    rw [if_neg htls, if_pos rfl, if_neg htls, if_pos rfl]

/-- The other members of the spec are as they were. -/
theorem at?_converge_of_ne (existing : Ingress) {name : String} (hrules : name ≠ "rules")
    (htls : name ≠ "tls") :
    (converge api existing desired).data.at? ["spec", name] =
      existing.data.at? ["spec", name] := by
  rw [at?_pair, at?_pair, get?_converge_data, if_pos rfl, Option.bind_some, get?_converge_spec,
    if_neg hrules, if_neg htls]
  cases existing.data.get? "spec" <;> rfl

/-! ## Metadata -/

/-- Of the metadata only the annotations and the owners change. -/
theorem converge_metadata (existing : Ingress) :
    (converge api existing desired).metadata =
      { existing.metadata with
        annotations := some (convergeAnnotations existing.metadata.annotations desired.annotations)
        ownerReferences := (existing.metadata.setController desired.owners).ownerReferences } := by
  show Metadata.setController _ _ = _
  rw [Metadata.set_controller_eq]
  unfold Metadata.setController
  split <;> rfl

/-- The annotations of an ingress that was brought up to date. -/
theorem annotation?_converge (existing : Ingress) (key : String) :
    (converge api existing desired).annotation? key =
      (desired.annotations.get? key).or
        ((existing.annotation? key).filter fun _ => !IngressKey.conditional.contains key) := by
  rw [annotation?, converge_metadata]
  exact get?_converge_annotations _ _ _

/-- An ingress that was brought up to date is so. -/
theorem converge_twice (existing : Ingress)
    (howners : ∀ owner ∈ desired.owners, owner.isController = true) :
    converge api (converge api existing desired) desired = converge api existing desired := by
  have hdata : (converge api (converge api existing desired) desired).data =
      (converge api existing desired).data := by
    rw [converge_data, get?_converge_data, if_pos rfl, Option.getD_some, converge_spec_twice,
      converge_data existing, Json.members?, Option.getD_some,
      (Json.settled_set_member _ _ _).eq]
  have hannotations : (converge api existing desired).metadata.annotations =
      some (convergeAnnotations existing.metadata.annotations desired.annotations) := by
    rw [converge_metadata]
  have hcontrolled : (converge api existing desired).metadata.setController desired.owners =
      (converge api existing desired).metadata :=
    Metadata.set_controller_twice _ howners
  have hmetadata : (converge api (converge api existing desired) desired).metadata =
      (converge api existing desired).metadata := by
    rw [converge_metadata, hcontrolled, hannotations, converge_annotations_twice, ← hannotations]
  calc converge api (converge api existing desired) desired
      = ⟨existing.types, (converge api (converge api existing desired) desired).metadata,
          (converge api (converge api existing desired) desired).data⟩ := rfl
    _ = converge api existing desired := by rw [hmetadata, hdata]; rfl

/-! ## The whole ingress -/

/-- What it means that `updated` is a stored ingress `existing` brought up to what is wanted. -/
structure UpToDate (api : IngressApi) (desired : DesiredIngress) (existing updated : Ingress) :
    Prop where
  /-- The routes are those of a new ingress. -/
  rules : updated.data.at? ["spec", "rules"] = (build api desired).data.at? ["spec", "rules"]
  /-- The certificates are those of a new ingress, or there are none in either. -/
  certificates : updated.data.at? ["spec", "tls"] = (build api desired).data.at? ["spec", "tls"]
  /-- The operator's own annotations are those of a new ingress. -/
  managed : ∀ key ∈ IngressKey.managed,
    updated.annotation? key = (build api desired).annotation? key
  /-- Any other annotation is the wanted one, and as it was if none is wanted. -/
  unmanaged : ∀ key ∉ IngressKey.managed,
    updated.annotation? key = (desired.annotations.get? key).or (existing.annotation? key)
  /-- The version and the kind are as they were. -/
  types : updated.types = existing.types
  /-- The metadata are as they were, apart from the annotations and the owners. -/
  metadata : { updated.metadata with
      annotations := existing.metadata.annotations
      ownerReferences := existing.metadata.ownerReferences } = existing.metadata
  /-- All other data are as they were. -/
  data : ∀ name, name ≠ "spec" → updated.data.get? name = existing.data.get? name
  /-- The spec is as it was, apart from the routes and the certificates. -/
  spec : ∀ name, name ≠ "rules" → name ≠ "tls" →
    updated.data.at? ["spec", name] = existing.data.at? ["spec", name]
  /-- Bringing it up to date once more changes nothing. -/
  again : converge api updated desired = updated

/-- Whatever an ingress was, it can be brought up to what a function ingress asks for: it then has
the routes, the certificates and the operator's own annotations of a new one, the rest is as it
was, and a second time changes nothing. -/
theorem converge_up_to_date (api : IngressApi) (existing : Ingress) (object : FunctionIngress) :
    UpToDate api (desiredIngress object) existing
      (converge api existing (desiredIngress object)) where
  rules := at?_converge_eq_build existing (.inl rfl)
  certificates := at?_converge_eq_build existing (.inr rfl)
  managed key hkey := by
    rw [annotation?_converge]
    show _ = (desiredIngress object).annotations.get? key
    by_cases hconditional : key ∈ IngressKey.conditional
    · rw [Option.filter_eq_none_iff.2 (by simp [hconditional]), Option.or_none]
    · exact Option.or_of_isSome
        (Option.isSome_iff_ne_none.2 (ingress_annotations_managed object hkey hconditional))
  unmanaged key hkey := by
    have hconditional : key ∉ IngressKey.conditional := fun hmem =>
      hkey (List.mem_cons_of_mem _ (List.mem_cons_of_mem _ hmem))
    have hkept : ((existing.annotation? key).filter fun _ => !IngressKey.conditional.contains key) =
        existing.annotation? key := by
      cases existing.annotation? key with
      | none => rfl
      | some value => exact Option.filter_some_pos (by simp [hconditional])
    rw [annotation?_converge, hkept]
  types := rfl
  metadata := by rw [converge_metadata]
  data name hname := by rw [get?_converge_data, if_neg hname]
  spec _ := at?_converge_of_ne existing
  again := converge_twice existing (PrimaryKind.owner_reference_controls _ _)

end Ingress

end FunctionOperator
