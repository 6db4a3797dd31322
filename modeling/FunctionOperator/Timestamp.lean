import FunctionOperator.Text.Blank

/-!
# Timestamps

Points in time as seconds of the epoch and nanoseconds, read from and written to RFC 3339 text.
Reading is generous about blanks and the number of digits; every date has to exist. Writing is in
UTC. Read `Timestamp.ofText?` first.
-/

namespace FunctionOperator

/-- A point in time. A leap second has more than `10 ^ 9` nanoseconds. -/
structure Timestamp where
  /-- Whole seconds since the start of 1970 in UTC. -/
  seconds : Int
  /-- Nanoseconds within the second. -/
  nanos : Nat
deriving DecidableEq, Inhabited

namespace Timestamp

/-- Whether a year of the Gregorian calendar has 366 days. -/
def isLeapYear (year : Int) : Bool :=
  year % 4 = 0 && (year % 100 != 0 || year % 400 = 0)

/-- The number of days of a month. -/
def daysInMonth (year : Int) (month : Nat) : Nat :=
  if month = 2 then (if isLeapYear year then 29 else 28)
  else if month = 4 ∨ month = 6 ∨ month = 9 ∨ month = 11 then 30
  else 31

/-- Days from the start of 1970 to a date; the year begins in March, so that the leap day is the
last one. -/
def dayNumber (year : Int) (month day : Nat) : Int :=
  let shifted := if month ≤ 2 then year - 1 else year
  let era := shifted / 400
  let yearOfEra := shifted % 400
  let dayOfYear : Int := (153 * ((month + 9) % 12) + 2) / 5 + day - 1
  let dayOfEra := yearOfEra * 365 + yearOfEra / 4 - yearOfEra / 100 + dayOfYear
  era * 146097 + dayOfEra - 719468

/-- The date of a number of days from the start of 1970: year, month and day. -/
def dateOfDay (days : Int) : Int × Nat × Nat :=
  let shifted := days + 719468
  let era := shifted / 146097
  let dayOfEra := shifted % 146097
  let yearOfEra := (dayOfEra - dayOfEra / 1460 + dayOfEra / 36524 - dayOfEra / 146096) / 365
  let dayOfYear := dayOfEra - (365 * yearOfEra + yearOfEra / 4 - yearOfEra / 100)
  let shiftedMonth := (5 * dayOfYear + 2) / 153
  let day := dayOfYear - (153 * shiftedMonth + 2) / 5 + 1
  let month := if shiftedMonth < 10 then shiftedMonth + 3 else shiftedMonth - 9
  let year := yearOfEra + era * 400 + (if month ≤ 2 then 1 else 0)
  (year, month.toNat, day.toNat)

/-! ## Reading -/

/-- Passes over blanks. -/
def skipBlanks (cs : List Char) : List Char := cs.dropWhile Text.isBlank

/-- The value of decimal digits. -/
def digitsValue (cs : List Char) : Nat :=
  cs.foldl (fun acc c => 10 * acc + (c.toNat - '0'.toNat)) 0

/-- Reads a number of one to `width` digits. -/
def readDigits? (width : Nat) (cs : List Char) : Option (Nat × List Char) :=
  let digits := (cs.take width).takeWhile Char.isDigit
  if digits.isEmpty then none else some (digitsValue digits, cs.drop digits.length)

/-- Reads a number of one or two digits after blanks. -/
def readPart? (cs : List Char) : Option (Nat × List Char) := readDigits? 2 (skipBlanks cs)

/-- Reads a year: four digits at most, or any number of digits behind a sign. -/
def readYear? (cs : List Char) : Option (Int × List Char) :=
  match skipBlanks cs with
  | '-' :: rest => (readDigits? rest.length rest).map fun (n, rest) => (-(n : Int), rest)
  | '+' :: rest => (readDigits? rest.length rest).map fun (n, rest) => ((n : Int), rest)
  | rest => (readDigits? 4 rest).map fun (n, rest) => ((n : Int), rest)

/-- Reads a separator after blanks. -/
def readMark? (mark : Char) (cs : List Char) : Option (List Char) :=
  match skipBlanks cs with
  | c :: rest => if c = mark then some rest else none
  | [] => none

/-- Reads the fraction of a second, to the nanosecond; further digits are passed over. -/
def readFraction? (cs : List Char) : Option (Nat × List Char) :=
  match cs with
  | '.' :: rest =>
    let digits := (rest.take 9).takeWhile Char.isDigit
    if digits.isEmpty then none
    else some (digitsValue digits * Nat.pow 10 (9 - digits.length), rest.dropWhile Char.isDigit)
  | _ => some (0, cs)

/-- Reads the two digits at the front. -/
def readPair? : List Char → Option (Nat × Nat)
  | a :: b :: _ => if a.isDigit && b.isDigit then some (digitsValue [a], digitsValue [b]) else none
  | _ => none

/-- Reads the distance from UTC in seconds: `Z`, `UTC`, or signed hours and minutes. -/
def readOffset? (cs : List Char) : Option (Int × List Char) :=
  match cs with
  | 'Z' :: rest => some (0, rest)
  | 'z' :: rest => some (0, rest)
  | sign :: rest =>
    if (cs.take 3).map Char.toUpper = ['U', 'T', 'C'] then some (0, cs.drop 3)
    else if sign = '+' || sign = '-' || sign = '−' then do
      let (h1, h2) ← readPair? rest
      let tail := (rest.drop 2).dropWhile fun c => c = ':' || Text.isBlank c
      let (m1, m2) ← readPair? tail
      if m1 ≥ 6 then none
      let hours := 10 * h1 + h2
      if hours ≥ 24 then none
      let size : Int := hours * 3600 + (10 * m1 + m2) * 60
      return (if sign = '+' then size else -size, tail.drop 2)
    else none
  | [] => none

/-- The first and the last second that can be represented: those of the years -262143 and 262142. -/
def secondsLimits : Int × Int :=
  (dayNumber (-262143) 1 1 * 86400, dayNumber 262143 1 1 * 86400 - 1)

/-- Whether a number of seconds can be represented. -/
def inLimits (seconds : Int) : Bool :=
  secondsLimits.1 ≤ seconds && seconds ≤ secondsLimits.2

/-- The time that a text denotes. Its date and time have to be in the limits both where it was
written down and in UTC. -/
def ofText? (text : String) : Option Timestamp := do
  let (year, cs) ← readYear? text.toList
  let cs ← readMark? '-' cs
  let (month, cs) ← readPart? cs
  let cs ← readMark? '-' cs
  let (day, cs) ← readPart? cs
  let cs ← match cs with
    | 'T' :: rest => some rest
    | 't' :: rest => some rest
    | ' ' :: rest => some rest
    | _ => none
  let (hour, cs) ← readPart? cs
  let cs ← readMark? ':' cs
  let (minute, cs) ← readPart? cs
  let cs ← readMark? ':' cs
  let (second, cs) ← readPart? cs
  let (fraction, cs) ← readFraction? cs
  let (offset, cs) ← readOffset? (skipBlanks cs)
  if !(skipBlanks cs).isEmpty then none
  if month < 1 || 12 < month || day < 1 || daysInMonth year month < day then none
  if 23 < hour || 59 < minute || 60 < second then none
  let (second, fraction) := if second = 60 then (59, fraction + 1_000_000_000) else (second, fraction)
  let clock : Int := hour * 3600 + minute * 60 + second
  let here := dayNumber year month day * 86400 + clock
  if !inLimits here || !inLimits (here - offset) then none
  return ⟨here - offset, fraction⟩

/-! ## Writing -/

/-- A number with leading zeros up to a width. -/
def padded (width n : Nat) : String :=
  let digits := toString n
  String.ofList (List.replicate (width - digits.length) '0') ++ digits

/-- A year: four digits, or beyond them a sign and at least four digits. -/
def yearText (year : Int) : String :=
  if 0 ≤ year ∧ year ≤ 9999 then padded 4 year.toNat
  else (if year < 0 then "-" else "+") ++ padded 4 year.natAbs

/-- The date and the time of day in UTC, to the second. -/
def clockText (time : Timestamp) : String :=
  let days := time.seconds / 86400
  let clock := (time.seconds % 86400).toNat
  let (year, month, day) := dateOfDay days
  let second := clock % 60 + time.nanos / 1_000_000_000
  yearText year ++ "-" ++ padded 2 month ++ "-" ++ padded 2 day ++ "T" ++
    padded 2 (clock / 3600) ++ ":" ++ padded 2 (clock / 60 % 60) ++ ":" ++ padded 2 second

/-- The text of a time, to the second. -/
def toText (time : Timestamp) : String := time.clockText ++ "Z"

/-- The text of a time, to the microsecond. -/
def toMicroText (time : Timestamp) : String :=
  time.clockText ++ "." ++ padded 6 (time.nanos % 1_000_000_000 / 1000) ++ "Z"

/-- The second within its day. -/
def secondOfDay (time : Timestamp) : Int := time.seconds % 86400

/-- The nanoseconds from a time to a later one. A leap second counts if the other time is at
another second of its day, on the leap second's far side. -/
def nanosSince (later earlier : Timestamp) : Int :=
  let leap :=
    if earlier.secondOfDay < later.secondOfDay then
      if 1_000_000_000 ≤ earlier.nanos then 1 else 0
    else if later.secondOfDay < earlier.secondOfDay then
      if 1_000_000_000 ≤ later.nanos then -1 else 0
    else 0
  (later.seconds - earlier.seconds + leap) * 1_000_000_000 + (later.nanos - earlier.nanos : Int)

end Timestamp

end FunctionOperator
