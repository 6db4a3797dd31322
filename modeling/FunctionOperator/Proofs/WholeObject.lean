import FunctionOperator.Proofs.Json.Unknown
import FunctionOperator.Proofs.Snapshot
import FunctionOperator.Resource.FunctionIngress
import Mathlib.Algebra.Group.Int.Defs

/-!
# Records of whole objects

An annotation that holds the text of a whole object in the place of a snapshot. Read `WholeObject`
first, which says which members count and leaves all others open, and `Snapshot.Recorded`, which has
both forms of a record. `recorded_state_recovered` proves for both kinds of primary objects that
either form leads back to the declared state.

Members may come in any order. So the proof does not follow the fields of a snapshot but the names
that were seen: `SnapshotMetadata.partly` and `Snapshot.partly` are what is known of a snapshot
after some of them.
-/

namespace FunctionOperator

variable {σ : Type}

/-- The members of a whole object and those of its metadata. The names differ, and what a snapshot
knows is there with the values of the object; whatever else is there does not matter. -/
structure WholeObject (kind : PrimaryKind σ) (object : Primary σ)
    (members details : List (String × Json)) : Prop where
  /-- No member occurs twice. -/
  names : (members.map (·.1)).Nodup
  /-- The metadata are there. -/
  metadata : members.lookup "metadata" = some (.object details)
  /-- The spec is there. -/
  spec : members.lookup "spec" = some (kind.spec.write object.spec)
  /-- No metadata occur twice. -/
  detail_names : (details.map (·.1)).Nodup
  /-- The name is there if the object has one. -/
  name : details.lookup "name" = object.metadata.name.map Json.string
  /-- The namespace is there if the object has one. -/
  space : details.lookup "namespace" = object.metadata.space.map Json.string
  /-- The annotations are there if the object has any, with what is no part of its state. -/
  annotations : details.lookup "annotations" =
    object.metadata.annotations.map Codec.textMap.write

/-! ## Metadata -/

namespace SnapshotMetadata

/-- What is known of recorded metadata after some members of whole metadata. -/
def partly (metadata : Metadata) (seen : List String) : SnapshotMetadata where
  name := if "name" ∈ seen then metadata.name.getD "" else ""
  space := if "namespace" ∈ seen then metadata.space.getD "" else ""
  annotations := if "annotations" ∈ seen then metadata.annotations.getD ∅ else ∅

/-- A field of recorded metadata is found by its name. -/
theorem field_eq {field : Field SnapshotMetadata} (h : field ∈ record.fields) :
    record.field? field.name = some field :=
  Record.field_eq_some (by decide) h

/-- The metadata that whole metadata amount to. -/
def ofMetadata (metadata : Metadata) : SnapshotMetadata where
  name := metadata.name.getD ""
  space := metadata.space.getD ""
  annotations := metadata.annotations.getD ∅

end SnapshotMetadata

namespace WholeObject

variable {kind : PrimaryKind σ} {object : Primary σ} {members details : List (String × Json)}

/-- Every member of the metadata is a field of recorded metadata or passed over. -/
theorem detail_takes (h : WholeObject kind object members details) (levels : Nat)
    {entry : String × Json} (hentry : entry ∈ details) :
    Draft.Yields (levels + 1) entry.2
      (SnapshotMetadata.record.Takes (SnapshotMetadata.partly object.metadata) entry.1) := by
  obtain ⟨name, value⟩ := entry
  have hvalue : details.lookup name = some value := (lookup_iff_mem h.detail_names).2 hentry
  by_cases hname : name = "name"
  · subst hname
    obtain ⟨text, htext, rfl⟩ := Option.map_eq_some_iff.1 (h.name.symm.trans hvalue)
    refine Record.takes_restored (Codec.string_restores _ text)
      (SnapshotMetadata.field_eq (.head _)) fun draft hread seen => ?_
    simp [Field.omitted, Field.of, hread, SnapshotMetadata.partly, htext, bind, Except.bind, pure,
      Except.pure]
  by_cases hspace : name = "namespace"
  · subst hspace
    obtain ⟨text, htext, rfl⟩ := Option.map_eq_some_iff.1 (h.space.symm.trans hvalue)
    refine Record.takes_restored (Codec.string_restores _ text)
      (SnapshotMetadata.field_eq (.tail _ (.head _))) fun draft hread seen => ?_
    simp [Field.omitted, Field.of, hread, SnapshotMetadata.partly, htext, bind, Except.bind, pure,
      Except.pure]
  by_cases hannotations : name = "annotations"
  · subst hannotations
    obtain ⟨texts, htexts, rfl⟩ := Option.map_eq_some_iff.1 (h.annotations.symm.trans hvalue)
    have hrestores : Codec.textMap.Restores (levels + 1) texts :=
      Codec.map_restores fun _ _ => Codec.string_restores _ _
    refine Record.takes_restored hrestores
      (SnapshotMetadata.field_eq (.tail _ (.tail _ (.head _)))) fun draft hread seen => ?_
    simp [Field.omitted, Field.of, hread, SnapshotMetadata.partly, htexts, bind, Except.bind, pure,
      Except.pure]
  obtain ⟨draft, hreads, hskip⟩ := Draft.passes value (levels + 1)
  refine ⟨draft, hreads, .unknown (Record.field_eq_none ?_) hskip⟩
  show name ∉ ["name", "namespace", "annotations"]
  simp [hname, hspace, hannotations]

/-- What is there is seen, so that what was not seen is not there. -/
theorem seen_value {α : Type} {name : String} {all : List String} {value : Option α}
    (h : value.isSome → name ∈ all) (fallback : α) :
    (if name ∈ all then value.getD fallback else fallback) = value.getD fallback := by
  cases value with
  | none => exact ite_self _
  | some value => exact if_pos (h rfl)

/-- The metadata are read as what they amount to. -/
theorem details_yield (h : WholeObject kind object members details) (levels : Nat) :
    Draft.Yields (levels + 2) (.object details)
      (SnapshotMetadata.codec.read · = .ok (.ofMetadata object.metadata)) := by
  refine Record.closed_yields (by decide) rfl h.detail_names
    (fun entry hentry => h.detail_takes levels hentry) fun all hall => ?_
  have hseen {α : Type} {name : String} {value : Option α} {write : α → Json}
      (hlookup : details.lookup name = value.map write)
      (hfield : (SnapshotMetadata.record.field? name).isSome) (hsome : value.isSome) :
      name ∈ all := by
    obtain ⟨present, rfl⟩ := Option.isSome_iff_exists.1 hsome
    exact (hall name).2 ⟨Json.name_mem_of_lookup hlookup, hfield⟩
  simp only [SnapshotMetadata.partly, SnapshotMetadata.ofMetadata,
    seen_value (hseen h.name (by decide)), seen_value (hseen h.space (by decide)),
    seen_value (hseen h.annotations (by decide))]

end WholeObject

/-! ## Snapshots -/

namespace Snapshot

variable {kind : PrimaryKind σ}

/-- What is known of a snapshot after some members of a whole object. -/
def partly (kind : PrimaryKind σ) (object : Primary σ) (seen : List String) : Snapshot σ where
  metadata := if "metadata" ∈ seen then .ofMetadata object.metadata else {}
  spec := if "spec" ∈ seen then object.spec else kind.blank

/-- The snapshot that a whole object amounts to. -/
def ofWhole (object : Primary σ) : Snapshot σ := ⟨.ofMetadata object.metadata, object.spec⟩

/-- Without what is no part of the declared state that is its snapshot. -/
theorem of_whole_without_last_applied (object : Primary σ) :
    (ofWhole object).withoutLastApplied = capture object := rfl

/-- A field of a snapshot is found by its name. -/
theorem field_eq {field : Field (Snapshot σ)} (h : field ∈ (record kind).fields) :
    (record kind).field? field.name = some field := by
  have hnames : ((record kind).fields.map (·.name)).Nodup :=
    show ["metadata", "spec"].Nodup by decide
  exact Record.field_eq_some hnames h

end Snapshot

namespace WholeObject

variable {kind : PrimaryKind σ} {object : Primary σ} {members details : List (String × Json)}

/-- Every member of a whole object is a field of a snapshot or passed over. -/
theorem member_takes (h : WholeObject kind object members details) {levels : Nat}
    (hspec : kind.spec.Restores (levels + 2) object.spec) {entry : String × Json}
    (hentry : entry ∈ members) :
    Draft.Yields (levels + 2) entry.2
      ((Snapshot.record kind).Takes (Snapshot.partly kind object) entry.1) := by
  obtain ⟨name, value⟩ := entry
  have hvalue : members.lookup name = some value := (lookup_iff_mem h.names).2 hentry
  by_cases hmetadata : name = "metadata"
  · subst hmetadata
    obtain rfl := Option.some.inj (h.metadata.symm.trans hvalue)
    obtain ⟨draft, hreads, hread⟩ := h.details_yield levels
    refine ⟨draft, hreads, .known (Snapshot.field_eq (.head _)) fun seen => ?_⟩
    simp [Field.defaulted, Field.of, hread, Snapshot.partly, bind, Except.bind, pure, Except.pure]
  by_cases hspecName : name = "spec"
  · subst hspecName
    obtain rfl := Option.some.inj (h.spec.symm.trans hvalue)
    refine Record.takes_restored hspec (Snapshot.field_eq (.tail _ (.head _)))
      fun draft hread seen => ?_
    simp [Field.defaulted, Field.of, hread, Snapshot.partly, bind, Except.bind, pure, Except.pure]
  obtain ⟨draft, hreads, hskip⟩ := Draft.passes value (levels + 2)
  refine ⟨draft, hreads, .unknown (Record.field_eq_none ?_) hskip⟩
  show name ∉ ["metadata", "spec"]
  simp [hmetadata, hspecName]

/-- A whole object is read as what it amounts to. -/
theorem yields (h : WholeObject kind object members details) {levels : Nat}
    (hspec : kind.spec.Restores (levels + 2) object.spec) :
    Draft.Yields (levels + 3) (.object members)
      ((Snapshot.codec kind).read · = .ok (.ofWhole object)) := by
  refine Record.closed_yields ?_ rfl h.names (fun entry hentry => h.member_takes hspec hentry)
    fun all hall => ?_
  · rintro field (_ | ⟨_, _ | ⟨_, ⟨⟩⟩⟩) <;> exact nofun
  · have hmetadata : "metadata" ∈ all := (hall _).2 ⟨Json.name_mem_of_lookup h.metadata, rfl⟩
    have hspecSeen : "spec" ∈ all := (hall _).2 ⟨Json.name_mem_of_lookup h.spec, rfl⟩
    simp [Snapshot.partly, Snapshot.ofWhole, hmetadata, hspecSeen]

/-- What is written for an object is a whole object. -/
theorem written (kind : PrimaryKind σ) (object : Primary σ) :
    ∃ members details, kind.codec.write object = .object members ∧
      WholeObject kind object members details := by
  have hnames : (Metadata.record.fields.map (·.name)).Nodup := by decide
  have hlookup (i : Nat) (hi : i < Metadata.record.fields.length) :=
    Record.lookup_written hnames object.metadata (List.getElem_mem hi)
  refine ⟨_, Metadata.record.written object.metadata, rfl, ?_⟩
  refine {
    names := show ["apiVersion", "kind", "metadata", "spec"].Nodup by decide
    metadata := rfl
    spec := rfl
    detail_names := (Metadata.record.written_names object.metadata).nodup hnames
    name := (hlookup 9 (by decide)).trans (Field.maybe_write ..)
    space := (hlookup 10 (by decide)).trans (Field.maybe_write ..)
    annotations := (hlookup 0 (by decide)).trans (Field.maybe_write ..) }

end WholeObject

/-! ## Both forms of a record -/

namespace Snapshot

/-- The text is a record of a primary object. -/
inductive Recorded (kind : PrimaryKind σ) (object : Primary σ) : String → Prop where
  /-- The snapshot is recorded. -/
  | snapshot : Recorded kind object ((capture object).encode kind)
  /-- The whole object is recorded. -/
  | whole {members details} (h : WholeObject kind object members details) :
    Recorded kind object (Json.object members).render

/-- Whatever record of a primary object annotations hold, its declared state is recovered. -/
structure Recovers [DecidableEq σ] (kind : PrimaryKind σ) (object : Primary σ) : Prop where
  /-- The declared state is recovered, agrees with itself, and records the name if there is one. -/
  recovered : ∀ text, Recorded kind object text → ∀ annotations : TextMap,
    annotations.get? kind.snapshotKey = some text →
    ∃ snapshot, recover kind (some annotations) = .ok snapshot ∧ snapshot = capture object ∧
      snapshot.agrees (capture object) = true ∧
      snapshot.recordedName? = object.metadata.name.filter (!·.isEmpty)
  /-- The text that is written for the object is such a record. -/
  written : Recorded kind object (kind.codec.write object).render

variable {kind : PrimaryKind σ}

/-- A declared state records the name of its object, if it has one. -/
theorem recorded_name_capture (object : Primary σ) :
    (capture object).recordedName? = object.metadata.name.filter (!·.isEmpty) := by
  cases hname : object.metadata.name <;> simp [recordedName?, capture, hname]

/-- Records are recovered if the specs of the kind are restored. -/
theorem recovers [DecidableEq σ] {object : Primary σ} {levels : Nat}
    (hspec : kind.spec.Restores levels object.spec) (hmin : 2 ≤ levels)
    (hmax : levels < Draft.deepest) : Recovers kind object where
  recovered text htext annotations hget := by
    refine ⟨capture object, ?_, rfl, agrees_self _, recorded_name_capture object⟩
    cases htext with
    | snapshot =>
      rw [recover_encode hspec hmin hmax hget, capture_without_last_applied]
    | whole h =>
      have hdeep : kind.spec.Restores (124 + 2) object.spec := hspec.mono (Nat.le_of_lt_succ hmax)
      obtain ⟨draft, hreads, hread⟩ := h.yields hdeep
      have htext := Document.of_text_reads_as hreads
      rw [← of_whole_without_last_applied]
      refine recover_of_read hget (Json.render_object_not_empty _) ?_
      rw [htext, Document.read, hread]
      rfl
  written := by
    obtain ⟨members, details, hwrite, h⟩ := WholeObject.written kind object
    rw [hwrite]
    exact .whole h

end Snapshot

/-- For every function ingress, and for every function whose number of replicas has 32 bits: the
declared state is recovered from its snapshot, and from the text of the whole object with whatever
members a snapshot does not know. -/
theorem recorded_state_recovered :
    (∀ object : FunctionIngress, Snapshot.Recovers FunctionIngress.kind object) ∧
      ∀ object : Function, object.spec.InRange → Snapshot.Recovers Function.kind object := by
  constructor
  · intro object
    exact Snapshot.recovers (FunctionIngressSpec.restores object.spec) (by decide) (by decide)
  · intro object hrange
    exact Snapshot.recovers (FunctionSpec.restores hrange) (by decide) (by decide)

/-- A function whose texts have to be escaped, with an annotation that is no part of its state. -/
def escapedEcho : Function where
  metadata := {
    annotations := some (.ofList [(lastAppliedKey, "{}"), ("note", "a \"b\"\n\\ \x01 ü")])
    name := some "echo"
    uid := some "1" }
  spec := { name := "echo", image := "echo\t:1", replicas := some (-1) }

/-- The members of an older record of the function, with others among them. -/
def escapedEchoMembers : List (String × Json) := [
  ("status", .array [.object [("ready", .null)], .number (.whole (10 ^ 30))]),
  ("spec", FunctionSpec.codec.write escapedEcho.spec),
  ("metadata", .object [
    ("uid", .string "1"),
    ("annotations", .object [(lastAppliedKey, .string "{}"),
      ("note", .string "a \"b\"\n\\ \x01 ü")]),
    ("name", .string "echo")]),
  ("kind", .string "Function")]

/-- The declared state of the function is recovered from the older record. -/
theorem recorded_state_recovered_escaped :
    ∃ snapshot, Snapshot.recover Function.kind
        (some (.ofList [(Function.kind.snapshotKey, (Json.object escapedEchoMembers).render)])) =
          .ok snapshot ∧
      snapshot.recordedName? = some "echo" ∧ snapshot.spec = escapedEcho.spec ∧
      snapshot.metadata.annotations.entries = [("note", "a \"b\"\n\\ \x01 ü")] := by
  have hrange : escapedEcho.spec.InRange := by
    rintro replicas ⟨⟩
    decide
  have hwhole : Snapshot.Recorded Function.kind escapedEcho
      (Json.object escapedEchoMembers).render :=
    .whole ⟨by decide, rfl, rfl, by decide, rfl, rfl, rfl⟩
  obtain ⟨snapshot, hrecover, rfl, -, hname⟩ :=
    (recorded_state_recovered.2 escapedEcho hrange).recovered _ hwhole
      (.ofList [(Function.kind.snapshotKey, (Json.object escapedEchoMembers).render)]) rfl
  exact ⟨_, hrecover, hname, rfl, rfl⟩

end FunctionOperator
