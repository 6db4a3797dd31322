/-!
# Percent encoding

A percent sign with two hexadecimal digits stands for a byte. A sign without them stands for
itself. In the parameters of a query a plus sign stands for a blank.
-/

namespace FunctionOperator.Text

/-- The value of a hexadecimal digit. -/
def hexValue? (byte : UInt8) : Option Nat :=
  let n := byte.toNat
  if 48 ≤ n ∧ n ≤ 57 then some (n - 48)
  else if 65 ≤ n ∧ n ≤ 70 then some (n - 55)
  else if 97 ≤ n ∧ n ≤ 102 then some (n - 87)
  else none

/-- The byte that three bytes stand for. -/
def escapedByte? (sign high low : UInt8) : Option UInt8 := do
  if sign != 37 then none
  return UInt8.ofNat (16 * (← hexValue? high) + (← hexValue? low))

/-- Puts bytes in the place of the sequences that stand for them. -/
def unescapeBytes : List UInt8 → List UInt8
  | sign :: high :: low :: rest =>
    match escapedByte? sign high low with
    | some byte => byte :: unescapeBytes rest
    | none => sign :: unescapeBytes (high :: low :: rest)
  | rest => rest

/-- The text that an encoded text stands for; none if the bytes are no text. -/
def percentDecoded? (text : String) : Option String :=
  String.fromUTF8? ⟨(unescapeBytes text.toUTF8.toList).toArray⟩

/-- Whether a byte stands for itself in a parameter of a query. -/
def isFormByte (byte : UInt8) : Bool :=
  let n := byte.toNat
  (48 ≤ n && n ≤ 57) || (65 ≤ n && n ≤ 90) || (97 ≤ n && n ≤ 122) || [42, 45, 46, 95].contains n

/-- A byte in a parameter of a query. -/
def formByte (byte : UInt8) : List Char :=
  if isFormByte byte then [Char.ofNat byte.toNat]
  else if byte.toNat = 32 then ['+']
  else '%' :: (Nat.toDigits 16 (256 + byte.toNat)).tail.map Char.toUpper

/-- A text in a parameter of a query. -/
def formEncoded (text : String) : String :=
  String.ofList (text.toUTF8.toList.flatMap formByte)

end FunctionOperator.Text
