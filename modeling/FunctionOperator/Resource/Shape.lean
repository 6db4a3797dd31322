import FunctionOperator.Resource.Metadata

/-!
# Shapes of stored documents

A shape says which fields the cluster's types have and of which kind. Reading a document through
a shape drops unknown fields, takes `null` for an absent field, fills in required fields that are
missing, and refuses fields of a wrong kind. Read `Shape.codec` first.
-/

namespace FunctionOperator

/-- The form of a document. -/
inductive Shape where
  /-- A text. -/
  | text
  /-- A truth value. -/
  | flag
  /-- A whole number of 32 bits. -/
  | int32
  /-- A whole number of 64 bits. -/
  | int64
  /-- A whole number of 32 bits, or a text. -/
  | intOrText
  /-- A point in time, to the second. -/
  | time
  /-- A point in time, to the microsecond. -/
  | microTime
  /-- Metadata. -/
  | metadata
  /-- Any value. -/
  | any
  /-- A list. -/
  | list (item : Shape)
  /-- A map from texts. -/
  | map (value : Shape)
  /-- A record: the fields' names, whether they are required, and their shapes. -/
  | record (fields : List (String × Bool × Shape))

namespace Shape

/-- A field that may be absent. -/
def field (name : String) (shape : Shape) : String × Bool × Shape := (name, false, shape)

/-- A field that is always there. -/
def needed (name : String) (shape : Shape) : String × Bool × Shape := (name, true, shape)

/-- Fields of one shape that may be absent. -/
def each (names : List String) (shape : Shape) : List (String × Bool × Shape) :=
  names.map fun name => field name shape

mutual

/-- What stands for a required field that is missing. -/
def empty : Shape → Json
  | .text => .string ""
  | .flag => .bool false
  | .int32 => Json.ofInt 0
  | .int64 => Json.ofInt 0
  | .intOrText => Json.ofInt 0
  | .list _ => .array []
  | .record fields => Json.ofMembers (emptyFields fields)
  | .metadata => .object []
  | .time | .microTime | .any => .null
  | .map _ => .object []

/-- The required fields of an empty record. -/
def emptyFields : List (String × Bool × Shape) → List (String × Json)
  | [] => []
  | (name, required, shape) :: fields =>
    if required then (name, empty shape) :: emptyFields fields else emptyFields fields

end

/-- A field of a document: the last of its values counts, and `null` means that it is absent. -/
def memberField (name : String) (codec : Codec Json) : Field (List (String × Json)) where
  name := name
  presence := .defaulted
  read draft members := do
    match ← codec.option.read draft with
    | none => return members.filter fun entry => entry.1 != name
    | some value => return Json.setMember name value members
  write _ := none

/-- Puts in the required fields that are missing. Nothing stands for a missing point in time. -/
def fillIn (fields : List (String × Bool × Shape)) (members : List (String × Json)) :
    Except Cause (List (String × Json)) :=
  fields.foldlM (fun members (name, required, shape) =>
    if !required || (members.lookup name).isSome then .ok members
    else
      match shape with
      | .time => .error .mistyped
      | .microTime => .error .mistyped
      | shape => .ok (Json.setMember name shape.empty members)) members

/-- A codec of documents whose values come out of another codec. -/
def through {α : Type} (codec : Codec α) : Codec Json where
  read draft := (codec.read draft).map codec.write
  write value := value

mutual

/-- The codec of documents of a shape. -/
def codec : Shape → Codec Json
  | .text => through .string
  | .flag => through .bool
  | .int32 => through .int32
  | .int64 => through .int64
  | .intOrText => ⟨fun
      | .string value => .ok (.string value)
      | draft => (through .int32).read draft, id⟩
  | .time => through .timestamp
  | .microTime => through .microTimestamp
  | .metadata => through Metadata.codec
  | .any => .json
  | .list item => through item.codec.list
  | .map value => through value.codec.map
  | .record fields =>
    let record : Record (List (String × Json)) := ⟨[], fieldCodecs fields⟩
    ⟨fun draft => do return .object (← fillIn fields (← record.opened.read draft)), id⟩

/-- The fields of documents. -/
def fieldCodecs : List (String × Bool × Shape) → List (Field (List (String × Json)))
  | [] => []
  | (name, _, shape) :: fields => memberField name shape.codec :: fieldCodecs fields

end

end Shape

end FunctionOperator
