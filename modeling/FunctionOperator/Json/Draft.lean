import FunctionOperator.Json

/-!
# Drafts of JSON values

A text is read from left to right, and the first problem decides what is wrong with it: a text
that ends too early, a malformed text, or a value of a kind that its place does not admit. The
first two are known from the text alone, the third only from the place. A draft is the value as
far as its text goes, with the problem in the place where it was met, so that a reader that walks
over the draft in order meets the problems in order.
-/

namespace FunctionOperator

/-- Why a text does not denote a value of the wanted kind. -/
inductive Cause where
  /-- The text is no JSON. -/
  | malformed
  /-- The text ends too early. -/
  | truncated
  /-- The text is JSON so far, of another kind. -/
  | mistyped
deriving DecidableEq, Inhabited

/-- The place at which a text cannot be read on. -/
structure Stop where
  /-- The problem of a reader that wants the value at this place. -/
  read : Cause
  /-- The problem of a reader that passes over it. -/
  skip : Cause
deriving DecidableEq

/-- A stop that is the same for every reader. -/
def Stop.both (cause : Cause) : Stop := ⟨cause, cause⟩

/-- A JSON value as far as its text goes. -/
inductive Draft where
  /-- The value `null`. -/
  | null
  /-- A truth value. -/
  | bool (value : Bool)
  /-- A number. -/
  | number (value : Json.Number)
  /-- A text. -/
  | string (value : String)
  /-- Well-formed text without a value: a number beyond the range, half a surrogate pair, or
  values that are nested too deeply. -/
  | unreadable
  /-- The text stops before or within this value. -/
  | broken (stop : Stop)
  /-- Items, and where the list stops unless it is closed. -/
  | array (items : List Draft) (stop : Option Stop)
  /-- Members, and where the object stops unless it is closed; a name may be unreadable. -/
  | object (members : List (Option String × Draft)) (stop : Option Stop)
deriving Inhabited

namespace Draft

mutual

/-- The draft of a complete value. -/
def ofJson : Json → Draft
  | .null => .null
  | .bool value => .bool value
  | .number value => .number value
  | .string value => .string value
  | .array items => .array (ofItems items) none
  | .object members => .object (ofMembers members) none

/-- The drafts of complete items. -/
def ofItems : List Json → List Draft
  | [] => []
  | item :: items => ofJson item :: ofItems items

/-- The drafts of complete members. -/
def ofMembers : List (String × Json) → List (Option String × Draft)
  | [] => []
  | (name, value) :: members => (some name, ofJson value) :: ofMembers members

end

/-- The problem of stopping, for a reader that passes over the value. -/
def checkSkip : Option Stop → Except Cause Unit
  | none => .ok ()
  | some stop => .error stop.skip

/-- The problem of stopping, for a reader that wants the value. -/
def checkRead : Option Stop → Except Cause Unit
  | none => .ok ()
  | some stop => .error stop.read

mutual

/-- Passes over a value of any kind. -/
def skip : Draft → Except Cause Unit
  | .broken stop => .error stop.skip
  | .array items stop => do skipItems items; checkSkip stop
  | .object members stop => do skipMembers members; checkSkip stop
  | _ => .ok ()

/-- Passes over items. -/
def skipItems : List Draft → Except Cause Unit
  | [] => .ok ()
  | item :: items => do skip item; skipItems items

/-- Passes over members. -/
def skipMembers : List (Option String × Draft) → Except Cause Unit
  | [] => .ok ()
  | (_, value) :: members => do skip value; skipMembers members

end

mutual

/-- Looks at every part of a value of any kind, as a reader that keeps the value for later. -/
def inspect : Draft → Except Cause Unit
  | .unreadable => .error .malformed
  | .broken stop => .error stop.read
  | .array items stop => do inspectItems items; checkRead stop
  | .object members stop => do inspectMembers members; checkRead stop
  | _ => .ok ()

/-- Looks at every part of items. -/
def inspectItems : List Draft → Except Cause Unit
  | [] => .ok ()
  | item :: items => do inspect item; inspectItems items

/-- Looks at every part of members, and at their names. -/
def inspectMembers : List (Option String × Draft) → Except Cause Unit
  | [] => .ok ()
  | (none, _) :: _ => .error .malformed
  | (some _, value) :: members => do inspect value; inspectMembers members

end

/-- A value that is nested too deeply to be read, and can only be passed over. -/
def tooDeep (draft : Draft) : Draft :=
  match draft.skip with
  | .ok _ => .unreadable
  | .error cause => .broken ⟨.malformed, cause⟩

/-- A value where so many levels may be nested: where none may, a list or an object is too
deep. -/
def within (levels : Nat) (draft : Draft) : Draft :=
  match levels, draft with
  | 0, .array .. => draft.tooDeep
  | 0, .object .. => draft.tooDeep
  | _, _ => draft

/-- The problem of a value of a kind that is not wanted: its text is looked at as far as it tells
the kind. -/
def unwanted {α : Type} : Draft → Except Cause α
  | .unreadable => .error .malformed
  | .broken stop => .error stop.read
  | _ => .error .mistyped

end Draft

end FunctionOperator
