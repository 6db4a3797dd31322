import FunctionOperator.Json.Embedded
import FunctionOperator.SortedMap

/-!
# Codecs

A codec reads a type's values from drafts and writes them as JSON. Records are described by the
list of their fields; the description gives both directions. Read `Record.readMembers` first: it
walks over an object's members in the order of the text, so that the first problem decides.

Three customs exist. A *closed* record refuses a field that occurs twice and a missing required
field, and is also read from the list of its fields. A *gathering* record is a closed one without
list form that looks at the values of unknown fields, where others pass over them. An *open* record
lets the last occurrence of a field count, takes `null` for a missing field, and has no list form.
-/

namespace FunctionOperator

/-- Reading and writing the values of a type. -/
structure Codec (α : Type) where
  /-- The value that a draft denotes. -/
  read : Draft → Except Cause α
  /-- The JSON form of a value. -/
  write : α → Json

namespace Codec

/-- Texts. -/
def string : Codec String where
  read
    | .string value => .ok value
    | draft => draft.unwanted
  write := .string

/-- Truth values. -/
def bool : Codec Bool where
  read
    | .bool value => .ok value
    | draft => draft.unwanted
  write := .bool

/-- Whole numbers of a range; a number with a fraction or an exponent is none. -/
def int (min max : Int) : Codec Int where
  read
    | .number (.whole value) =>
      if min ≤ value ∧ value ≤ max then .ok value else .error .mistyped
    | draft => draft.unwanted
  write := Json.ofInt

/-- Signed numbers of 32 bits. -/
def int32 : Codec Int := int (-2_147_483_648) 2_147_483_647

/-- Signed numbers of 64 bits. -/
def int64 : Codec Int := int (-9_223_372_036_854_775_808) 9_223_372_036_854_775_807

/-- Unsigned numbers of 64 bits. -/
def nat64 : Codec Nat where
  read draft := ((int 0 18_446_744_073_709_551_615).read draft).map Int.toNat
  write := Json.ofNat

/-- Unsigned numbers of 32 bits. -/
def nat32 : Codec Nat where
  read draft := ((int 0 4_294_967_295).read draft).map Int.toNat
  write := Json.ofNat

/-- Unsigned numbers of 16 bits. -/
def nat16 : Codec Nat where
  read draft := ((int 0 65_535).read draft).map Int.toNat
  write := Json.ofNat

/-- Values of any kind. -/
def json : Codec Json where
  read := Draft.toJson
  write value := value

/-- Reads every item of a list. -/
def readItems {α : Type} (read : Draft → Except Cause α) : List Draft → Except Cause (List α)
  | [] => .ok []
  | item :: items => do
    let value ← read item
    let values ← readItems read items
    return value :: values

/-- Lists. -/
def list {α : Type} (codec : Codec α) : Codec (List α) where
  read
    | .array items stop => do
      let values ← readItems codec.read items
      Draft.checkRead stop
      return values
    | draft => draft.unwanted
  write values := .array (values.map codec.write)

/-- Reads the entries of a map in their order. -/
def readEntries {α : Type} (read : Draft → Except Cause α) :
    List (Option String × Draft) → Except Cause (List (String × α))
  | [] => .ok []
  | (none, _) :: _ => .error .malformed
  | (some name, draft) :: members => do
    let value ← read draft
    let values ← readEntries read members
    return (name, value) :: values

/-- Maps from names; of several entries with one name the last counts. -/
def map {α : Type} (codec : Codec α) : Codec (SortedMap α) where
  read
    | .object members stop => do
      let entries ← readEntries codec.read members
      Draft.checkRead stop
      return SortedMap.ofList entries
    | draft => draft.unwanted
  write values := .object (values.entries.map fun entry => (entry.1, codec.write entry.2))

/-- Values that may be absent, which is written `null`. -/
def option {α : Type} (codec : Codec α) : Codec (Option α) where
  read
    | .null => .ok none
    | draft => (codec.read draft).map some
  write
    | none => .null
    | some value => codec.write value

/-- Values for which `null` stands for a default. -/
def orElse {α : Type} (codec : Codec α) (fallback : α) : Codec α where
  read
    | .null => .ok fallback
    | draft => codec.read draft
  write := codec.write

/-- The value of a word. -/
def known {α : Type} (words : List (String × α)) (word : String) : Except Cause α :=
  (words.lookup word).elim (.error .mistyped) .ok

/-- One of some words. -/
def word {α : Type} [DecidableEq α] (words : List (String × α)) : Codec α where
  read
    | .string word => known words word
    | draft => draft.unwanted
  write value := .ofOption ((words.find? fun entry => entry.2 = value).map fun entry =>
    .string entry.1)

/-- One of some words. A word may also be the name of an object's only member, which is `null`. -/
def choice {α : Type} [DecidableEq α] (words : List (String × α)) : Codec α where
  read
    | .string word => known words word
    | .object [(some word, .null)] none => known words word
    | .object _ _ => .error .mistyped
    | .broken stop => .error stop.read
    | _ => .error .malformed
  write := (word words).write

/-- Values that come out of another form, which may refuse them. -/
def via {α β : Type} (codec : Codec α) (decode : α → Except Cause β) (encode : β → α) :
    Codec β where
  read draft := do decode (← codec.read draft)
  write value := codec.write (encode value)

end Codec

/-- Whether a field may be missing. -/
inductive Presence where
  /-- It must be there. -/
  | required
  /-- It may be missing among an object's members, not in the list form. -/
  | optional
  /-- It may be missing. -/
  | defaulted
deriving DecidableEq

/-- One field of a record. -/
structure Field (σ : Type) where
  /-- The field's name. -/
  name : String
  /-- Whether it may be missing. -/
  presence : Presence
  /-- Reads the field into a record. -/
  read : Draft → σ → Except Cause σ
  /-- The JSON form of the field; nothing if it is left out. -/
  write : σ → Option Json

namespace Field

variable {σ α : Type}

/-- A field with its codec, its place in the record and a rule for leaving it out. -/
def of (name : String) (presence : Presence) (codec : Codec α) (get : σ → α) (set : α → σ → σ)
    (leaveOut : α → Bool) : Field σ where
  name := name
  presence := presence
  read draft record := do return set (← codec.read draft) record
  write record := if leaveOut (get record) then none else some (codec.write (get record))

/-- A field that must be there. -/
def required (name : String) (codec : Codec α) (get : σ → α) (set : α → σ → σ) : Field σ :=
  of name .required codec get set fun _ => false

/-- A field that may be missing and is always written. -/
def defaulted (name : String) (codec : Codec α) (get : σ → α) (set : α → σ → σ) : Field σ :=
  of name .defaulted codec get set fun _ => false

/-- A field that may be missing and is written unless it holds what its absence means. -/
def omitted (name : String) (codec : Codec α) (get : σ → α) (set : α → σ → σ)
    (leaveOut : α → Bool) : Field σ :=
  of name .defaulted codec get set leaveOut

/-- A field that may be absent, is then not written, and is `null` in the list form at least. -/
def optional (name : String) (codec : Codec α) (get : σ → Option α) (set : Option α → σ → σ) :
    Field σ :=
  of name .optional codec.option get set Option.isNone

/-- A field that may be absent and is then not written. -/
def maybe (name : String) (codec : Codec α) (get : σ → Option α) (set : Option α → σ → σ) :
    Field σ :=
  of name .defaulted codec.option get set Option.isNone

/-- A field that may be missing, and otherwise has a fixed text. -/
def fixed (name text : String) : Field σ where
  name := name
  presence := .defaulted
  read draft record := do
    let found ← Codec.string.read draft
    if found = text then return record else throw .mistyped
  write _ := some (.string text)

/-- A field that is checked and not kept. -/
def checked (name : String) (codec : Codec α) : Field σ where
  name := name
  presence := .defaulted
  read draft record := do
    let _ ← codec.read draft
    return record
  write _ := none

/-- A field that may be absent, is checked and not kept. -/
def ignored (name : String) (codec : Codec α) : Field σ := checked name codec.option

end Field

/-- A record type's fields in the order of its declaration, and the record without any of them. -/
structure Record (σ : Type) where
  /-- The record whose fields are all missing. -/
  blank : σ
  /-- The fields in order. -/
  fields : List (Field σ)

namespace Record

variable {σ : Type}

/-- The field of a name. -/
def field? (record : Record σ) (name : String) : Option (Field σ) :=
  record.fields.find? fun field => field.name == name

/-- Reads an object's members in order into a record. With `once` a field may not occur twice;
`other` reads the values of unknown fields, and `seen` are the names that have occurred. -/
def readMembers (record : Record σ) (once : Bool) (other : Draft → Except Cause Unit) :
    List (Option String × Draft) → List String → σ → Except Cause (σ × List String)
  | [], seen, value => .ok (value, seen)
  | (none, _) :: _, _, _ => .error .malformed
  | (some name, draft) :: members, seen, value =>
    match record.field? name with
    | none => do
      other draft
      readMembers record once other members seen value
    | some field =>
      if once && seen.contains name then .error .mistyped
      else do
        let value ← field.read draft value
        readMembers record once other members (name :: seen) value

/-- Reads a record from an object's members, none of which may occur twice. -/
def readOnce (record : Record σ) (other : Draft → Except Cause Unit)
    (members : List (Option String × Draft)) (stop : Option Stop) : Except Cause σ := do
  let (value, seen) ← record.readMembers true other members [] record.blank
  Draft.checkRead stop
  if record.fields.any fun field => field.presence = .required && !seen.contains field.name then
    throw .mistyped
  return value

/-- Reads a record from the list of its fields. -/
def readList : List (Field σ) → List Draft → Option Stop → σ → Except Cause σ
  | [], [], stop, value => do
    Draft.checkRead stop
    return value
  | [], _ :: _, _, _ => .error .malformed
  | field :: fields, [], stop, value => do
    Draft.checkRead stop
    if field.presence = .defaulted then readList fields [] stop value else .error .mistyped
  | field :: fields, item :: items, stop, value => do
    let value ← field.read item value
    readList fields items stop value

/-- The members of a record's JSON form. -/
def write (record : Record σ) (value : σ) : Json :=
  .object (record.fields.filterMap fun field => (field.write value).map (field.name, ·))

/-- The codec of a closed record. -/
def closed (record : Record σ) : Codec σ where
  read
    | .object members stop => record.readOnce Draft.skip members stop
    | .array items stop => readList record.fields items stop record.blank
    | draft => draft.unwanted
  write := record.write

/-- The codec of a gathering record. -/
def gathering (record : Record σ) : Codec σ where
  read
    | .object members stop => record.readOnce Draft.inspect members stop
    | draft => draft.unwanted
  write := record.write

/-- The codec of an open record. -/
def opened (record : Record σ) : Codec σ where
  read
    | .object members stop => do
      let (value, _) ← record.readMembers false Draft.skip members [] record.blank
      Draft.checkRead stop
      return value
    | draft => draft.unwanted
  write := record.write

end Record

end FunctionOperator
