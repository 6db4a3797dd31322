import FunctionOperator.Json

/-!
# Writing JSON

The compact text of a value: no blanks, members in the order of the value, and in strings only
quotes, backslashes and control characters below the blank escaped. Read `Json.chars` first: it
writes a value in front of what follows it.
-/

namespace FunctionOperator

namespace Json

/-- The lower-case hexadecimal digit of a number below sixteen. -/
def hexDigit (n : Nat) : Char :=
  if n < 10 then Char.ofNat ('0'.toNat + n) else Char.ofNat ('a'.toNat + (n - 10))

/-- A character inside a string literal. -/
def escapeChar (c : Char) : List Char :=
  if c = '"' then ['\\', '"']
  else if c = '\\' then ['\\', '\\']
  else if ' ' ≤ c then [c]
  else if c = '\x08' then ['\\', 'b']
  else if c = '\x0c' then ['\\', 'f']
  else if c = '\n' then ['\\', 'n']
  else if c = '\r' then ['\\', 'r']
  else if c = '\t' then ['\\', 't']
  else ['\\', 'u', '0', '0', hexDigit (c.toNat / 16), hexDigit (c.toNat % 16)]

/-- A text as a string literal, in front of what follows. -/
def stringChars (s : String) (rest : List Char) : List Char :=
  '"' :: (s.toList.flatMap escapeChar ++ '"' :: rest)

/-- The characters of a number. -/
def Number.chars : Number → List Char
  | .whole value => (toString value).toList
  | .double value => value.toDocument.toList

mutual

/-- A value in front of what follows. -/
def chars (rest : List Char) : Json → List Char
  | .null => 'n' :: 'u' :: 'l' :: 'l' :: rest
  | .bool true => 't' :: 'r' :: 'u' :: 'e' :: rest
  | .bool false => 'f' :: 'a' :: 'l' :: 's' :: 'e' :: rest
  | .number value => value.chars ++ rest
  | .string value => stringChars value rest
  | .array [] => '[' :: ']' :: rest
  | .array (item :: items) => '[' :: chars (itemChars rest items) item
  | .object [] => '{' :: '}' :: rest
  | .object ((name, value) :: members) =>
    '{' :: stringChars name (':' :: chars (memberChars rest members) value)

/-- The items after the first one, and the closing bracket. -/
def itemChars (rest : List Char) : List Json → List Char
  | [] => ']' :: rest
  | item :: items => ',' :: chars (itemChars rest items) item

/-- The members after the first one, and the closing brace. -/
def memberChars (rest : List Char) : List (String × Json) → List Char
  | [] => '}' :: rest
  | (name, value) :: members =>
    ',' :: stringChars name (':' :: chars (memberChars rest members) value)

end

/-- The compact text of a value. -/
def render (value : Json) : String :=
  String.ofList (chars [] value)

end Json

end FunctionOperator
