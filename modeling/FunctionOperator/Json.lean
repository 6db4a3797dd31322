import FunctionOperator.Binary64

/-!
# JSON values

Complete JSON values. A number keeps the distinction between whole numbers and numbers with a
fraction or an exponent, because fields for whole numbers admit only the former. Objects list
their members; the objects that this library builds and keeps have them sorted by name, one per
name, which `Json.setMember` preserves.
-/

namespace FunctionOperator

/-- A number as it is written: whole within 64 bits, or of double precision. -/
inductive Json.Number where
  /-- A whole number of at most 64 bits. -/
  | whole (value : Int)
  /-- A number with a fraction or an exponent, or a larger one. -/
  | double (value : Binary64)
deriving DecidableEq

/-- A JSON value. -/
inductive Json where
  /-- The value `null`. -/
  | null
  /-- A truth value. -/
  | bool (value : Bool)
  /-- A number. -/
  | number (value : Json.Number)
  /-- A text. -/
  | string (value : String)
  /-- A list of values. -/
  | array (items : List Json)
  /-- Named values. -/
  | object (members : List (String × Json))
deriving Inhabited

namespace Json

/-- A whole number. -/
def ofInt (value : Int) : Json := .number (.whole value)

/-- A whole number that is not negative. -/
def ofNat (value : Nat) : Json := ofInt value

/-- A value, or `null` for none. -/
def ofOption : Option Json → Json
  | none => .null
  | some value => value

/-- Puts a member at its place among members sorted by name. -/
def setMember (name : String) (value : Json) : List (String × Json) → List (String × Json)
  | [] => [(name, value)]
  | entry :: rest =>
    if name < entry.1 then (name, value) :: entry :: rest
    else if name = entry.1 then (name, value) :: rest
    else entry :: setMember name value rest

/-- Sorts members by name; of several with one name the last remains. -/
def sortMembers (members : List (String × Json)) : List (String × Json) :=
  members.foldl (fun acc entry => setMember entry.1 entry.2 acc) []

/-- An object of the given members, sorted. -/
def ofMembers (members : List (String × Json)) : Json :=
  .object (sortMembers members)

/-- The members of an object. -/
def members? : Json → Option (List (String × Json))
  | .object members => some members
  | _ => none

/-- The value of a member of an object. -/
def get? (name : String) : Json → Option Json
  | .object members => members.lookup name
  | _ => none

/-- The value at a path of member names. -/
def at? : List String → Json → Option Json
  | [], value => some value
  | name :: path, value => (value.get? name).bind (at? path)

/-- Sets a member; what is no object becomes one. -/
def set (target : Json) (name : String) (value : Json) : Json :=
  match target with
  | .object members => .object (setMember name value members)
  | _ => .object [(name, value)]

/-- Removes a member of an object. -/
def remove (name : String) : Json → Json
  | .object members => .object (members.filter fun entry => entry.1 != name)
  | other => other

/-- The text of a string value. -/
def string? : Json → Option String
  | .string value => some value
  | _ => none

/-- The value of a whole number. -/
def int? : Json → Option Int
  | .number (.whole value) => some value
  | _ => none

/-- The truth value. -/
def bool? : Json → Option Bool
  | .bool value => some value
  | _ => none

/-- The items of an array. -/
def items? : Json → Option (List Json)
  | .array items => some items
  | _ => none

end Json

end FunctionOperator
