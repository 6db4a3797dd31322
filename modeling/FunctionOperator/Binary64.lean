/-!
# Double-precision numbers

Finite numbers of the IEEE 754 format of 64 bits, as a sign, a mantissa and an exponent, with
exact arithmetic on natural numbers: a ratio is rounded to the nearest such number, an exact tie
to the even mantissa, and a number is written with the fewest digits that read back.
-/

namespace FunctionOperator

/-- The finite number whose size is `mantissa * 2 ^ exponent`. -/
structure Binary64 where
  /-- Whether the number has a minus sign; zero may have one too. -/
  negative : Bool
  /-- At most 53 bits, and exactly 53 unless the exponent is the least one. -/
  mantissa : Nat
  /-- At least -1074 and at most 971. -/
  exponent : Int
deriving DecidableEq, Inhabited

namespace Binary64

/-- The quotient, rounded to the nearest number and from the middle to the even one. -/
def roundedQuotient (num den : Nat) : Nat :=
  let floor := num / den
  let twice := 2 * (num % den)
  if twice < den then floor
  else if den < twice then floor + 1
  else floor + floor % 2

/-- The ratio `num / den` divided by a power of two, as a ratio. -/
def scaleDown (num den : Nat) (exponent : Int) : Nat × Nat :=
  if 0 ≤ exponent then (num, den * Nat.pow 2 exponent.toNat)
  else (num * Nat.pow 2 (-exponent).toNat, den)

/-- The number nearest to a ratio, or nothing where that exceeds the format's range. -/
def ofRatio? (negative : Bool) (num den : Nat) : Option Binary64 :=
  if num = 0 then some ⟨negative, 0, -1074⟩
  else
    let guess : Int := (num.log2 : Int) - (den.log2 : Int) - 52
    let scaled := scaleDown num den guess
    let normal := if scaled.1 / scaled.2 < Nat.pow 2 52 then guess - 1 else guess
    let exponent := max normal (-1074)
    let ratio := scaleDown num den exponent
    let mantissa := roundedQuotient ratio.1 ratio.2
    let rounded : Binary64 :=
      if mantissa = Nat.pow 2 53 then ⟨negative, Nat.pow 2 52, exponent + 1⟩
      else ⟨negative, mantissa, exponent⟩
    if 971 < rounded.exponent then none else some rounded

/-- The number nearest to a whole number of at most 1000 bits. -/
def ofNat (n : Nat) : Binary64 := (ofRatio? false n 1).getD default

/-- The number zero. -/
def zero : Binary64 := ⟨false, 0, -1074⟩

/-- The size of a number as a ratio. -/
def ratio (x : Binary64) : Nat × Nat :=
  if 0 ≤ x.exponent then (x.mantissa * Nat.pow 2 x.exponent.toNat, 1)
  else (x.mantissa, Nat.pow 2 (-x.exponent).toNat)

/-- The rounded sum of two numbers that are not negative. -/
def addSizes? (x y : Binary64) : Option Binary64 :=
  let (xn, xd) := x.ratio
  let (yn, yd) := y.ratio
  ofRatio? false (xn * yd + yn * xd) (xd * yd)

/-- The rounded product of the sizes of two numbers. -/
def mulSizes? (x y : Binary64) : Option Binary64 :=
  let (xn, xd) := x.ratio
  let (yn, yd) := y.ratio
  ofRatio? false (xn * yn) (xd * yd)

/-- The rounded quotient of the sizes of two numbers, the second not zero. -/
def divSizes? (x y : Binary64) : Option Binary64 :=
  let (xn, xd) := x.ratio
  let (yn, yd) := y.ratio
  ofRatio? false (xn * yd) (xd * yn)

/-- Whether the size of the first number is at most that of the second. -/
def sizeLe (x y : Binary64) : Bool :=
  let (xn, xd) := x.ratio
  let (yn, yd) := y.ratio
  xn * yd ≤ yn * xd

/-! ## The shortest decimal -/

/-- The decimal `digits * 10 ^ exponent`. -/
structure Decimal where
  /-- The digits as one number. -/
  digits : Nat
  /-- The place of the last digit. -/
  exponent : Int
deriving DecidableEq

/-- Whether `a * 2 ^ q ≤ c * 10 ^ s`. -/
def leDecimal (a : Nat) (q : Int) (c : Nat) (s : Int) : Bool :=
  a * Nat.pow 2 q.toNat * Nat.pow 10 (-s).toNat ≤ c * Nat.pow 10 s.toNat * Nat.pow 2 (-q).toNat

/-- Whether `c * 10 ^ s ≤ a * 2 ^ q`. -/
def decimalLe (c : Nat) (s : Int) (a : Nat) (q : Int) : Bool :=
  c * Nat.pow 10 s.toNat * Nat.pow 2 (-q).toNat ≤ a * Nat.pow 2 q.toNat * Nat.pow 10 (-s).toNat

/-- Whether a decimal is rounded to the number of this mantissa and exponent. -/
def readsBack (mantissa : Nat) (exponent : Int) (d : Decimal) : Bool :=
  let below :=
    if mantissa = Nat.pow 2 52 && exponent != -1074 then 4 * mantissa - 1 else 4 * mantissa - 2
  let above := 4 * mantissa + 2
  let c := 4 * d.digits
  if mantissa % 2 = 0 then
    leDecimal below exponent c d.exponent && decimalLe c d.exponent above exponent
  else
    !decimalLe c d.exponent below exponent && !leDecimal above exponent c d.exponent

/-- Removes zeros at the end of a decimal's digits. -/
def Decimal.trimZeros (fuel : Nat) (d : Decimal) : Decimal :=
  match fuel with
  | 0 => d
  | fuel + 1 =>
    if d.digits % 10 = 0 && d.digits != 0 then
      Decimal.trimZeros fuel ⟨d.digits / 10, d.exponent + 1⟩
    else d

/-- The number of decimal places before the point, negative for leading zeros behind it. -/
def magnitude (num den : Nat) : Int :=
  if den ≤ num then ((Nat.toDigits 10 (num / den)).length : Int)
  else
    let places : Nat := (Nat.toDigits 10 (den / num)).length
    if den ≤ num * Nat.pow 10 (places - 1) then 2 - (places : Int) else 1 - (places : Int)

/-- The decimal that reads back on the grid with this many digits, the nearer of two. -/
def onGrid? (mantissa : Nat) (exponent : Int) (num den : Nat) (places : Int) (count : Nat) :
    Option Decimal :=
  let step := places - count
  let top := num * Nat.pow 10 (-step).toNat
  let bottom := den * Nat.pow 10 step.toNat
  let lower : Decimal := ⟨top / bottom, step⟩
  let upper : Decimal := ⟨top / bottom + 1, step⟩
  let twice := 2 * (top % bottom)
  let upperFirst := bottom < twice || (bottom = twice && lower.digits % 2 = 1)
  let (first, second) := if upperFirst then (upper, lower) else (lower, upper)
  if readsBack mantissa exponent first then some first
  else if readsBack mantissa exponent second then some second
  else none

/-- The decimal with the fewest digits that reads back, the nearest of those. -/
def shortest (x : Binary64) : Decimal :=
  if x.mantissa = 0 then ⟨0, 0⟩
  else
    let (num, den) := x.ratio
    let places := magnitude num den
    let found := (List.range 17).findSome? fun count =>
      onGrid? x.mantissa x.exponent num den places (count + 1)
    (found.getD ⟨x.mantissa, 0⟩).trimZeros 400

/-- The text of a number of zeros. -/
def zeros (count : Nat) : String := String.ofList (List.replicate count '0')

/-- Positional decimal text of a size, without a point where the number is whole. -/
def positional (d : Decimal) : String :=
  let digits := toString d.digits
  let point : Int := digits.length + d.exponent
  if 0 ≤ d.exponent then digits ++ zeros d.exponent.toNat
  else if 0 < point then
    String.ofList (digits.toList.take point.toNat) ++ "." ++
      String.ofList (digits.toList.drop point.toNat)
  else "0." ++ zeros (-point).toNat ++ digits

/-- The text of a number in a metrics exposition: positional, never with an exponent. -/
def toPlain (x : Binary64) : String :=
  (if x.negative then "-" else "") ++ positional x.shortest

/-- The text of a number in a document: positional with a decimal point from `1e-5` up to below
`1e16`, and with a signed exponent otherwise. -/
def toDocument (x : Binary64) : String :=
  let d := x.shortest
  let digits := toString d.digits
  let point : Int := digits.length + d.exponent
  let size :=
    if d.digits = 0 then "0.0"
    else if -5 < point && point ≤ 16 then
      if 0 ≤ d.exponent then positional d ++ ".0" else positional d
    else
      let fraction := String.ofList (digits.toList.drop 1)
      let head := String.ofList (digits.toList.take 1)
      head ++ (if fraction.isEmpty then "" else "." ++ fraction) ++
        (if 0 < point then "e+" else "e") ++ toString (point - 1)
  (if x.negative then "-" else "") ++ size

end Binary64

end FunctionOperator
