import FunctionOperator.Json.Reader

/-!
# Values of any kind

Reading a draft as a value of any kind. An object whose first member has the name `Json.textMark`
stands for another value: the one that the member's text denotes. Read `Draft.toJsonBy` first;
`Json.parse` closes the circle, because a text inside another text is shorter.
-/

namespace FunctionOperator

/-- The name of the member whose text denotes the value of its object. -/
def Json.textMark : String := "$serde_json::private::RawValue"

namespace Draft

/-- The value that a text inside a value denotes. What is wrong with that text is not told. -/
def embedded (parse : String → Except Cause Json) : Draft → Except Cause Json
  | .string text => (parse text).mapError fun _ => .mistyped
  | draft => draft.unwanted

mutual

/-- Reads a value of any kind, with a way to read texts inside it; members are sorted, and of
several with one name the last counts. -/
def toJsonBy (parse : String → Except Cause Json) : Draft → Except Cause Json
  | .null => .ok .null
  | .bool value => .ok (.bool value)
  | .number value => .ok (.number value)
  | .string value => .ok (.string value)
  | .unreadable => .error .malformed
  | .broken stop => .error stop.read
  | .array items stop => do
    let values ← toItemsBy parse items
    checkRead stop
    return .array values
  | .object ((some name, draft) :: members) stop =>
    if name = Json.textMark then do
      let value ← embedded parse draft
      checkRead (if members.isEmpty then stop else some (.both .malformed))
      return value
    else do
      let first ← toJsonBy parse draft
      let values ← toMembersBy parse members
      checkRead stop
      return Json.ofMembers ((name, first) :: values)
  | .object ((none, _) :: _) _ => .error .malformed
  | .object [] stop => do
    checkRead stop
    return .object []

/-- Reads items of any kind. -/
def toItemsBy (parse : String → Except Cause Json) : List Draft → Except Cause (List Json)
  | [] => .ok []
  | item :: items => do
    let value ← toJsonBy parse item
    let values ← toItemsBy parse items
    return value :: values

/-- Reads members of any kind. -/
def toMembersBy (parse : String → Except Cause Json) :
    List (Option String × Draft) → Except Cause (List (String × Json))
  | [] => .ok []
  | (none, _) :: _ => .error .malformed
  | (some name, draft) :: members => do
    let value ← toJsonBy parse draft
    let values ← toMembersBy parse members
    return (name, value) :: values

end

end Draft

namespace Json

/-- Reads a text as a value of any kind, with texts inside texts to a depth. -/
def parseTo : Nat → String → Except Cause Json
  | 0, _ => .error .malformed
  | depth + 1, text => (Document.ofText text).read (Draft.toJsonBy (parseTo depth))

/-- Reads a text as a value of any kind. -/
def parse (text : String) : Except Cause Json := parseTo (text.length + 1) text

end Json

/-- Reads a draft as a value of any kind. -/
def Draft.toJson (draft : Draft) : Except Cause Json := draft.toJsonBy Json.parse

end FunctionOperator
