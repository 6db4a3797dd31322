import FunctionOperator.Definition.Schema

/-!
# Definitions of resources

What tells the cluster about a kind of declared objects: its names and the schema of each version.
Read `ResourceDefinition.merge` first: one definition serves several versions, of which one is
stored.
-/

namespace FunctionOperator

/-- One version of a kind. -/
structure VersionDefinition where
  /-- The name of the version. -/
  name : String
  /-- The column that lists show beside the name: its title, and where its value is. -/
  column : String × String
  /-- The schema of specs. -/
  spec : Schema
  /-- Whether objects are stored in this version. -/
  stored : Bool := true

/-- The definition of a kind. -/
structure ResourceDefinition where
  /-- The group. -/
  group : String
  /-- The name of the kind. -/
  kind : String
  /-- The name of the collection. -/
  plural : String
  /-- The name of one object. -/
  singular : String
  /-- Short names of the collection. -/
  shortNames : List String
  /-- The versions. -/
  versions : List VersionDefinition

namespace VersionDefinition

/-- The schema of the objects of a version, of which only the spec is described. -/
def schema (kind : String) (version : VersionDefinition) : Json :=
  .object [
    ("description",
      .string ("Auto-generated derived type for " ++ kind ++ "Spec via `CustomResource`")),
    ("properties", .object [("spec", version.spec.toJson)]),
    ("required", .array [.string "spec"]),
    ("title", .string kind),
    ("type", .string "object")]

/-- The document of a version. -/
def toJson (kind : String) (version : VersionDefinition) : Json :=
  .object [
    ("additionalPrinterColumns", .array [.object [
      ("jsonPath", .string version.column.2),
      ("name", .string version.column.1),
      ("type", .string "string")]]),
    ("name", .string version.name),
    ("schema", .object [("openAPIV3Schema", version.schema kind)]),
    ("served", .bool true),
    ("storage", .bool version.stored),
    ("subresources", .object [])]

end VersionDefinition

namespace ResourceDefinition

/-- The document of a definition. -/
def toJson (definition : ResourceDefinition) : Json :=
  .object [
    ("apiVersion", .string "apiextensions.k8s.io/v1"),
    ("kind", .string "CustomResourceDefinition"),
    ("metadata", .object [("name", .string (definition.plural ++ "." ++ definition.group))]),
    ("spec", .object [
      ("group", .string definition.group),
      ("names", .object [
        ("categories", .array []),
        ("kind", .string definition.kind),
        ("plural", .string definition.plural),
        ("shortNames", .array (definition.shortNames.map .string)),
        ("singular", .string definition.singular)]),
      ("scope", .string "Namespaced"),
      ("versions", .array (definition.versions.map (VersionDefinition.toJson definition.kind)))])]

/-- Whether a definition serves a version. -/
def serves (definition : ResourceDefinition) (version : String) : Bool :=
  definition.versions.any fun served => served.name == version

/-- One definition for the versions of several ones, of which the named one comes first and is
stored. -/
def merge (definitions : List ResourceDefinition) (stored : String) :
    Except String ResourceDefinition :=
  match definitions.find? fun definition => definition.serves stored with
  | none => .error ("root api version " ++ stored ++ " not found")
  | some root =>
    let others := definitions.flatMap fun definition =>
      definition.versions.filter fun version => version.name != stored
    .ok { root with
      versions := (root.versions.filter fun version => version.name == stored) ++
        others.map fun version => { version with stored := false } }

end ResourceDefinition

end FunctionOperator
