import FunctionOperator.Failure
import FunctionOperator.Json.Printer
import FunctionOperator.Json.Reader
import FunctionOperator.Resource.Primary

/-!
# Snapshots

A derived object records in an annotation the declared state that it was rendered from. The next
sync compares this snapshot with the declared state of today and writes only where they differ.
Read `Snapshot.recover` and `Snapshot.agrees` first. A snapshot has the shape of the declared
object, so that the whole object recorded in its place reads as a snapshot too.
-/

namespace FunctionOperator

/-- The annotation in which a client records what it applied last; it is no part of the declared
state. -/
def lastAppliedKey : String := "kubectl.kubernetes.io/last-applied-configuration"

/-- The annotations that are part of the declared state. -/
def Metadata.userAnnotations (metadata : Metadata) : TextMap :=
  (metadata.annotations.getD ∅).erase lastAppliedKey

/-- The metadata that a snapshot records. -/
structure SnapshotMetadata where
  /-- The name of the object. -/
  name : String := ""
  /-- Its namespace. -/
  space : String := ""
  /-- Its annotations. -/
  annotations : TextMap := ∅
deriving DecidableEq

namespace SnapshotMetadata

/-- The fields of recorded metadata. -/
def record : Record SnapshotMetadata where
  blank := {}
  fields := [
    .omitted "name" .string (·.name) (fun v r => { r with name := v }) String.isEmpty,
    .omitted "namespace" .string (·.space) (fun v r => { r with space := v }) String.isEmpty,
    .omitted "annotations" .textMap (·.annotations)
      (fun v r => { r with annotations := v }) SortedMap.isEmpty]

/-- The codec of recorded metadata. -/
def codec : Codec SnapshotMetadata := record.closed

end SnapshotMetadata

/-- The declared state that a derived object was rendered from. -/
structure Snapshot (σ : Type) where
  /-- The recorded metadata. -/
  metadata : SnapshotMetadata
  /-- The recorded spec. -/
  spec : σ
deriving DecidableEq

namespace Snapshot

variable {σ : Type}

/-- The fields of a snapshot. -/
def record (kind : PrimaryKind σ) : Record (Snapshot σ) where
  blank := ⟨{}, kind.blank⟩
  fields := [
    .defaulted "metadata" SnapshotMetadata.codec (·.metadata)
      fun v r => { r with metadata := v },
    .defaulted "spec" kind.spec (·.spec) fun v r => { r with spec := v }]

/-- The codec of snapshots. -/
def codec (kind : PrimaryKind σ) : Codec (Snapshot σ) := (record kind).closed

/-- The snapshot of a declared object. -/
def capture (object : Primary σ) : Snapshot σ where
  metadata := {
    name := object.metadata.name.getD ""
    space := object.metadata.space.getD ""
    annotations := object.metadata.userAnnotations }
  spec := object.spec

/-- The text that records a snapshot. -/
def encode (kind : PrimaryKind σ) (snapshot : Snapshot σ) : String :=
  ((codec kind).write snapshot).render

/-- Leaves out what is no part of the declared state. -/
def withoutLastApplied (snapshot : Snapshot σ) : Snapshot σ :=
  { snapshot with metadata := { snapshot.metadata with
      annotations := snapshot.metadata.annotations.erase lastAppliedKey } }

/-- The snapshot that a text records. -/
def decode (kind : PrimaryKind σ) (text : String) : Except Cause (Snapshot σ) :=
  ((Document.ofText text).read (codec kind).read).map withoutLastApplied

/-- The snapshot that annotations record; the blank one if there is none. -/
def recover (kind : PrimaryKind σ) (annotations : Option TextMap) :
    Except SyncFailure (Snapshot σ) :=
  match (annotations.bind (·.get? kind.snapshotKey)).filter (!·.isEmpty) with
  | none => .ok (record kind).blank
  | some text => (decode kind text).mapError (.corruptSnapshot kind.snapshotKey)

/-- Whether two snapshots lead to the same derived objects. -/
def agrees [DecidableEq σ] (snapshot current : Snapshot σ) : Bool :=
  snapshot.spec = current.spec && snapshot.metadata.annotations = current.metadata.annotations

/-- The name that a snapshot records, if any. -/
def recordedName? (snapshot : Snapshot σ) : Option String :=
  some snapshot.metadata.name |>.filter (!·.isEmpty)

end Snapshot

/-- Whether the declared state of an object changed between two versions. -/
def Primary.desiredStateChanged {σ : Type} [DecidableEq σ] (old new : Primary σ) : Bool :=
  old.spec != new.spec || old.metadata.userAnnotations != new.metadata.userAnnotations

end FunctionOperator
