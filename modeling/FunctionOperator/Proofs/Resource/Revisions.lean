import FunctionOperator.Proofs.Json.Unknown
import FunctionOperator.Proofs.Snapshot

/-!
# Two revisions of function ingresses

A spec that one revision wrote is read by the other. Read `asCurrent` and `asEarlier` first, which
go through the text, and `current` and `earlier`, which say what should come out. Going forward the
two revisions write the same text, because the current one leaves out what the earlier one does not
have. Going back the text has members that the earlier revision does not know and passes over.
`revisions_compatible` puts both ways together.
-/

namespace FunctionOperator

namespace EarlierFunctionIngressSpec

/-- The current form of a spec: what the earlier revision does not have is not asked for. -/
def current (spec : EarlierFunctionIngressSpec) : FunctionIngressSpec where
  domain := spec.domain
  function := spec.function
  ingressType := spec.ingressType
  tls := spec.tls
  functionNamespace := ""
  path := ""
  bypassGateway := false

/-- What the current revision reads from the text of a spec. -/
def asCurrent (spec : EarlierFunctionIngressSpec) : Except Cause FunctionIngressSpec :=
  (Document.ofText (codec.write spec).render).read FunctionIngressSpec.codec.read

/-- The specs of the earlier revision are restored. -/
theorem restores (spec : EarlierFunctionIngressSpec) :
    EarlierFunctionIngressSpec.codec.Restores 3 spec := by
  refine Record.closed_restores (by decide) ?_
  refine .required (Codec.string_restores 2 _) ?_
  refine .required (Codec.string_restores 2 _) ?_
  refine .omitted (Codec.string_restores 2 _) (fun hempty => ?_) ?_
  · simp_all [record]
  exact .maybe (fun options _ => ⟨options.restores, nofun⟩) rfl .nil

/-- Both revisions write a spec that the earlier one can state in the same way. -/
theorem write_current (spec : EarlierFunctionIngressSpec) :
    FunctionIngressSpec.codec.write spec.current = codec.write spec :=
  rfl

/-- The current revision reads the current form of a spec. -/
theorem as_current_eq (spec : EarlierFunctionIngressSpec) : spec.asCurrent = .ok spec.current := by
  rw [asCurrent, ← write_current]
  exact (FunctionIngressSpec.restores spec.current).of_text (by decide)

end EarlierFunctionIngressSpec

namespace FunctionIngressSpec

/-- The earlier form of a spec, without the fields that only the current revision has. -/
def earlier (spec : FunctionIngressSpec) : EarlierFunctionIngressSpec where
  domain := spec.domain
  function := spec.function
  ingressType := spec.ingressType
  tls := spec.tls

/-- What the earlier revision reads from the text of a spec. -/
def asEarlier (spec : FunctionIngressSpec) : Except Cause EarlierFunctionIngressSpec :=
  (Document.ofText (codec.write spec).render).read EarlierFunctionIngressSpec.codec.read

/-- A spec has a form in the earlier revision exactly if it does not use what is new. -/
theorem current_earlier_iff (spec : FunctionIngressSpec) :
    spec.earlier.current = spec ↔
      spec.functionNamespace = "" ∧ spec.path = "" ∧ spec.bypassGateway = false := by
  constructor
  · intro hsame
    rw [← hsame]
    exact ⟨rfl, rfl, rfl⟩
  · obtain ⟨domain, function, functionNamespace, path, ingressType, tls, bypassGateway⟩ := spec
    rintro ⟨rfl, rfl, rfl⟩
    rfl

/-- The earlier revision finds the fields of the earlier form among the written members. -/
theorem written_known (spec : FunctionIngressSpec) :
    (record.written spec).filter
        (fun entry => (EarlierFunctionIngressSpec.record.field? entry.1).isSome) =
      EarlierFunctionIngressSpec.record.written spec.earlier := by
  rw [Record.filter_written record spec fun name =>
    (EarlierFunctionIngressSpec.record.field? name).isSome]
  rfl

/-- The earlier revision reads the earlier form of a spec. -/
theorem as_earlier_eq (spec : FunctionIngressSpec) : spec.asEarlier = .ok spec.earlier := by
  have hplain : Json.Plain Draft.deepest (codec.write spec) :=
    spec.restores.plain.mono (by decide)
  have hread : EarlierFunctionIngressSpec.codec.read (Draft.ofJson (codec.write spec)) =
      .ok spec.earlier := by
    refine (Record.closed_read_known EarlierFunctionIngressSpec.record (record.written spec)).trans ?_
    rw [written_known]
    exact spec.earlier.restores.read
  rw [asEarlier, Document.of_text_render hplain, Document.read, hread]
  rfl

end FunctionIngressSpec

/-- Either revision reads what the other one wrote. A spec of the earlier revision becomes one that
asks for nothing new, and comes back as it was. A spec of the current revision keeps the fields that
both have, and comes back without the three others, so that it is kept exactly if it does not use
them. -/
theorem revisions_compatible :
    (∀ spec : EarlierFunctionIngressSpec,
      spec.asCurrent = .ok spec.current ∧
      (spec.asCurrent >>= FunctionIngressSpec.asEarlier) = .ok spec) ∧
    (∀ spec : FunctionIngressSpec,
      spec.asEarlier = .ok spec.earlier ∧
      (spec.asEarlier >>= EarlierFunctionIngressSpec.asCurrent) =
        .ok { spec with functionNamespace := "", path := "", bypassGateway := false } ∧
      ((spec.asEarlier >>= EarlierFunctionIngressSpec.asCurrent) = .ok spec ↔
        spec.functionNamespace = "" ∧ spec.path = "" ∧ spec.bypassGateway = false)) := by
  refine ⟨fun spec => ⟨spec.as_current_eq, ?_⟩, fun spec => ⟨spec.as_earlier_eq, ?_⟩⟩
  · calc (spec.asCurrent >>= FunctionIngressSpec.asEarlier)
        = (.ok spec.current >>= FunctionIngressSpec.asEarlier) := by rw [spec.as_current_eq]
      _ = spec.current.asEarlier := pure_bind _ _
      _ = .ok spec := spec.current.as_earlier_eq
  · have hback : (spec.asEarlier >>= EarlierFunctionIngressSpec.asCurrent) =
        .ok spec.earlier.current := calc
      _ = (.ok spec.earlier >>= EarlierFunctionIngressSpec.asCurrent) := by rw [spec.as_earlier_eq]
      _ = spec.earlier.asCurrent := pure_bind _ _
      _ = .ok spec.earlier.current := spec.earlier.as_current_eq
    refine ⟨hback, ?_⟩
    rw [hback, Except.ok.injEq]
    exact spec.current_earlier_iff

end FunctionOperator
