import FunctionOperator.Json.Codec
import FunctionOperator.Timestamp

/-!
# Object metadata

The metadata that every object of the cluster carries, with its owner references. Metadata are
open records: unknown fields are dropped and `null` means absent.
-/

namespace FunctionOperator

/-- A map of annotations or labels. -/
abbrev TextMap := SortedMap String

namespace Codec

/-- Maps from texts to texts. -/
def textMap : Codec TextMap := map string

/-- Points in time, to the second. -/
def timestamp : Codec Timestamp :=
  string.via (fun text => (Timestamp.ofText? text).elim (.error .mistyped) .ok) Timestamp.toText

/-- Points in time, to the microsecond. -/
def microTimestamp : Codec Timestamp :=
  string.via (fun text => (Timestamp.ofText? text).elim (.error .mistyped) .ok)
    Timestamp.toMicroText

/-- Texts that are empty when they are absent. -/
def textOrEmpty : Codec String := string.orElse ""

end Codec

/-- A reference from an object to one of its owners. -/
structure OwnerReference where
  /-- The API version of the owner. -/
  apiVersion : String
  /-- Whether the owner's deletion waits for the object. -/
  blockOwnerDeletion : Option Bool
  /-- Whether the owner controls the object. -/
  controller : Option Bool
  /-- The kind of the owner. -/
  kind : String
  /-- The name of the owner. -/
  name : String
  /-- The identity of the owner. -/
  uid : String
deriving DecidableEq

namespace OwnerReference

/-- The fields of an owner reference. -/
def record : Record OwnerReference where
  blank := ⟨"", none, none, "", "", ""⟩
  fields := [
    .defaulted "apiVersion" .textOrEmpty (·.apiVersion) fun v r => { r with apiVersion := v },
    .maybe "blockOwnerDeletion" .bool (·.blockOwnerDeletion)
      fun v r => { r with blockOwnerDeletion := v },
    .maybe "controller" .bool (·.controller) fun v r => { r with controller := v },
    .defaulted "kind" .textOrEmpty (·.kind) fun v r => { r with kind := v },
    .defaulted "name" .textOrEmpty (·.name) fun v r => { r with name := v },
    .defaulted "uid" .textOrEmpty (·.uid) fun v r => { r with uid := v }]

/-- The codec of owner references. -/
def codec : Codec OwnerReference := record.opened

end OwnerReference

/-- Which fields of an object a client manages. -/
structure ManagedFields where
  /-- The API version of the fields. -/
  apiVersion : Option String
  /-- The format of the fields. -/
  fieldsType : Option String
  /-- The fields. -/
  fieldsV1 : Option Json
  /-- The client. -/
  manager : Option String
  /-- What the client did. -/
  operation : Option String
  /-- The part of the object. -/
  subresource : Option String
  /-- When the client did it. -/
  time : Option Timestamp

namespace ManagedFields

/-- The fields of an entry. -/
def record : Record ManagedFields where
  blank := ⟨none, none, none, none, none, none, none⟩
  fields := [
    .maybe "apiVersion" .string (·.apiVersion) fun v r => { r with apiVersion := v },
    .maybe "fieldsType" .string (·.fieldsType) fun v r => { r with fieldsType := v },
    .maybe "fieldsV1" .json (·.fieldsV1) fun v r => { r with fieldsV1 := v },
    .maybe "manager" .string (·.manager) fun v r => { r with manager := v },
    .maybe "operation" .string (·.operation) fun v r => { r with operation := v },
    .maybe "subresource" .string (·.subresource) fun v r => { r with subresource := v },
    .maybe "time" .timestamp (·.time) fun v r => { r with time := v }]

/-- The codec of entries. -/
def codec : Codec ManagedFields := record.opened

end ManagedFields

/-- The metadata of an object. -/
structure Metadata where
  /-- Notes of clients. -/
  annotations : Option TextMap := none
  /-- When the object was created. -/
  creationTimestamp : Option Timestamp := none
  /-- How long a deletion may take. -/
  deletionGracePeriodSeconds : Option Int := none
  /-- When the object will be deleted. -/
  deletionTimestamp : Option Timestamp := none
  /-- What has to happen before a deletion. -/
  finalizers : Option (List String) := none
  /-- The start of a generated name. -/
  generateName : Option String := none
  /-- The number of the desired state. -/
  generation : Option Int := none
  /-- What the object is selected by. -/
  labels : Option TextMap := none
  /-- Who manages which fields. -/
  managedFields : Option (List ManagedFields) := none
  /-- The name. -/
  name : Option String := none
  /-- The namespace. -/
  space : Option String := none
  /-- The owners. -/
  ownerReferences : Option (List OwnerReference) := none
  /-- The version of the stored object. -/
  resourceVersion : Option String := none
  /-- The path of the object. -/
  selfLink : Option String := none
  /-- The identity of the object. -/
  uid : Option String := none
deriving Inhabited

namespace Metadata

/-- The fields of metadata. -/
def record : Record Metadata where
  blank := {}
  fields := [
    .maybe "annotations" .textMap (·.annotations) fun v r => { r with annotations := v },
    .maybe "creationTimestamp" .timestamp (·.creationTimestamp)
      fun v r => { r with creationTimestamp := v },
    .maybe "deletionGracePeriodSeconds" .int64 (·.deletionGracePeriodSeconds)
      fun v r => { r with deletionGracePeriodSeconds := v },
    .maybe "deletionTimestamp" .timestamp (·.deletionTimestamp)
      fun v r => { r with deletionTimestamp := v },
    .maybe "finalizers" (.list .string) (·.finalizers) fun v r => { r with finalizers := v },
    .maybe "generateName" .string (·.generateName) fun v r => { r with generateName := v },
    .maybe "generation" .int64 (·.generation) fun v r => { r with generation := v },
    .maybe "labels" .textMap (·.labels) fun v r => { r with labels := v },
    .maybe "managedFields" (.list ManagedFields.codec) (·.managedFields)
      fun v r => { r with managedFields := v },
    .maybe "name" .string (·.name) fun v r => { r with name := v },
    .maybe "namespace" .string (·.space) fun v r => { r with space := v },
    .maybe "ownerReferences" (.list OwnerReference.codec) (·.ownerReferences)
      fun v r => { r with ownerReferences := v },
    .maybe "resourceVersion" .string (·.resourceVersion) fun v r => { r with resourceVersion := v },
    .maybe "selfLink" .string (·.selfLink) fun v r => { r with selfLink := v },
    .maybe "uid" .string (·.uid) fun v r => { r with uid := v }]

/-- The codec of metadata. -/
def codec : Codec Metadata := record.opened

/-- The name of an object: its own one, else the start of the generated one, else nothing. -/
def displayName (metadata : Metadata) : String :=
  metadata.name.getD (metadata.generateName.getD "")

/-- The owners, if any. -/
def owners (metadata : Metadata) : List OwnerReference :=
  metadata.ownerReferences.getD []

end Metadata

end FunctionOperator
