import FunctionOperator.Text.Blank

/-!
# Whole numbers in settings and labels

A number is an optional sign followed by at least one decimal digit, and nothing else: no blanks,
no separators. `readNat?` and `readInt?` add the range of the field the number is for.
-/

namespace FunctionOperator.Text

/-- The value of a non-empty list of decimal digits. -/
def digitsValue? (cs : List Char) : Option Nat :=
  if cs.isEmpty then none
  else cs.foldl (fun acc c => acc.bind fun n =>
    if c.isDigit then some (10 * n + (c.toNat - '0'.toNat)) else none) (some 0)

/-- Reads an unsigned number that does not exceed `max`; a leading plus sign is allowed. -/
def readNat? (max : Nat) (s : String) : Option Nat :=
  let digits := match s.toList with
    | '+' :: rest => rest
    | cs => cs
  (digitsValue? digits).filter (· ≤ max)

/-- Reads a signed number between `min` and `max`; either sign is allowed. -/
def readInt? (min max : Int) (s : String) : Option Int :=
  let value := match s.toList with
    | '+' :: rest => (digitsValue? rest).map Int.ofNat
    | '-' :: rest => (digitsValue? rest).map fun n => -Int.ofNat n
    | cs => (digitsValue? cs).map Int.ofNat
  value.filter fun n => min ≤ n && n ≤ max

/-- Reads a number that fits 16 bits. -/
def readUInt16? : String → Option Nat := readNat? 65_535

/-- Reads a number that fits 64 bits. -/
def readUInt64? : String → Option Nat := readNat? 18_446_744_073_709_551_615

/-- Reads a signed number that fits 32 bits. -/
def readInt32? : String → Option Int := readInt? (-2_147_483_648) 2_147_483_647

end FunctionOperator.Text
