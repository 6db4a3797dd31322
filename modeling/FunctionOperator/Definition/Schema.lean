import FunctionOperator.Json

/-!
# Schemas

The schemas by which the cluster checks the objects that users declare, and their documents.
-/

namespace FunctionOperator

/-- What a schema says beside the form of values. -/
structure SchemaNote where
  /-- What the values are for. -/
  description : Option String := none
  /-- The value that stands for a missing one. -/
  fallback : Option Json := none
  /-- Whether `null` is a value. -/
  nullable : Bool := false

/-- The form of the values of a field. -/
inductive Schema where
  /-- A single value of a type, with the format of numbers. -/
  | single (type : String) (format : Option String) (note : SchemaNote)
  /-- A map from texts. -/
  | map (value : Schema) (note : SchemaNote)
  /-- A list. -/
  | list (item : Schema) (note : SchemaNote)
  /-- A record: its fields, and the names of those that must be there. -/
  | record (fields : List (String × Schema)) (required : List String) (note : SchemaNote)

namespace Schema

/-- A text with a description. -/
def text (description : String) : Schema :=
  .single "string" none { description := some description }

/-- A text without more. -/
def plainText : Schema := .single "string" none {}

/-- A truth value. -/
def flag (note : SchemaNote) : Schema := .single "boolean" none note

/-- The members that every schema has. -/
def noteMembers (type : String) (note : SchemaNote) : List (String × Option Json) := [
  ("type", some (.string type)),
  ("description", note.description.map .string),
  ("default", note.fallback),
  ("nullable", if note.nullable then some (.bool true) else none)]

/-- A document of the members that are given, in the order of their names. -/
def document (members : List (String × Option Json)) : Json :=
  Json.ofMembers (members.filterMap fun member => member.2.map (member.1, ·))

mutual

/-- The document of a schema. -/
def toJson : Schema → Json
  | .single type format note =>
    document (("format", format.map .string) :: noteMembers type note)
  | .map value note =>
    document (("additionalProperties", some (toJson value)) :: noteMembers "object" note)
  | .list item note => document (("items", some (toJson item)) :: noteMembers "array" note)
  | .record fields required note =>
    document (("properties", some (Json.ofMembers (fieldsToJson fields))) ::
      ("required", if required.isEmpty then none else some (.array (required.map .string))) ::
      noteMembers "object" note)

/-- The documents of fields. -/
def fieldsToJson : List (String × Schema) → List (String × Json)
  | [] => []
  | (name, schema) :: fields => (name, toJson schema) :: fieldsToJson fields

end

end Schema

end FunctionOperator
