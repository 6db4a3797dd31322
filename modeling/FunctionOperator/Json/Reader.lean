import FunctionOperator.Json.Draft

/-!
# Reading JSON texts

Turns a text into the draft of its value. Read `Draft.readValue` first; its two companions read
what follows the first item of a list and the first member of an object. Each of them returns the
rest of the text, or nothing where the text cannot be read on. Lists and objects are read up to
`Draft.deepest` levels; what is nested more deeply can only be passed over.
-/

namespace FunctionOperator

/-! ## Numbers -/

/-- The parts of a number's text. -/
structure NumberText where
  /-- Whether there is a minus sign. -/
  negative : Bool
  /-- The digits before the point. -/
  whole : List Nat
  /-- The digits after the point. -/
  fraction : List Nat
  /-- The exponent with its sign; nothing if there is none. -/
  exponent : Option Int
  /-- Whether there is neither point nor exponent. -/
  plain : Bool

namespace NumberText

/-- Significant digits as one number of at most 64 bits, with the digits that did not fit. -/
def gather (significand : Nat) : List Nat → Nat × List Nat
  | [] => (significand, [])
  | digit :: digits =>
    if 10 * significand + digit < 18_446_744_073_709_551_616 then
      gather (10 * significand + digit) digits
    else (significand, digit :: digits)

/-- The rounded power of ten. -/
def powerOfTen (exponent : Nat) : Binary64 :=
  Binary64.ofNat (Nat.pow 10 exponent)

/-- Scales a size by a power of ten, one rounding for each factor. -/
def scale (size : Binary64) (exponent : Int) : Nat → Option Binary64
  | 0 => some Binary64.zero
  | fuel + 1 =>
    if size.mantissa = 0 then some Binary64.zero
    else if 308 < exponent then none
    else if 0 ≤ exponent then size.mulSizes? (powerOfTen exponent.toNat)
    else if -308 ≤ exponent then size.divSizes? (powerOfTen (-exponent).toNat)
    else (size.divSizes? (powerOfTen 308)).bind fun smaller => scale smaller (exponent + 308) fuel

/-- The number that a text denotes, unless it is beyond the range. -/
def value? (text : NumberText) : Option Json.Number :=
  let (head, dropped) := gather 0 text.whole
  if text.plain && dropped.isEmpty && !text.negative then some (.whole head)
  else if text.plain && dropped.isEmpty && head != 0 && head ≤ 9_223_372_036_854_775_808 then
    some (.whole (-head))
  else
    let (significand, beyond) := gather head text.fraction
    let shift : Int := dropped.length - (text.fraction.length - beyond.length : Nat)
    let exponent := shift + text.exponent.getD 0
    (scale (Binary64.ofNat significand) exponent 4).map fun size =>
      .double { size with negative := text.negative }

end NumberText

/-- The outcome of looking at a number's text. -/
inductive NumberScan where
  /-- A well-formed number and what follows it. -/
  | found (text : NumberText) (rest : List Char)
  /-- The text stops within the number. -/
  | broken (stop : Stop)

namespace NumberScan

/-- A number that ends too early can be told from a malformed one only by its reader. -/
def truncated : Stop := ⟨.truncated, .malformed⟩

/-- The leading decimal digits. -/
def digits (cs : List Char) : List Nat × List Char :=
  ((cs.takeWhile Char.isDigit).map fun c => c.toNat - '0'.toNat, cs.dropWhile Char.isDigit)

/-- The value of a list of digits. -/
def digitsValue (ds : List Nat) : Nat :=
  ds.foldl (fun acc d => 10 * acc + d) 0

/-- What follows the digits of a number: nothing, or the exponent. -/
def exponentPart (text : NumberText) (cs : List Char) : NumberScan :=
  match cs with
  | c :: rest =>
    if c = 'e' ∨ c = 'E' then
      let (negative, rest) := match rest with
        | '+' :: tail => (false, tail)
        | '-' :: tail => (true, tail)
        | _ => (false, rest)
      match digits rest with
      | ([], []) => .broken truncated
      | ([], _ :: _) => .broken (.both .malformed)
      | (ds, rest) =>
        let size : Int := digitsValue ds
        let exponent := some (if negative then -size else size)
        .found { text with exponent := exponent, plain := false } rest
    else .found text cs
  | [] => .found text []

/-- What follows the digits before the point. -/
def fractionPart (text : NumberText) (cs : List Char) : NumberScan :=
  match cs with
  | '.' :: rest =>
    match digits rest with
    | ([], []) => .broken truncated
    | ([], _ :: _) => .broken (.both .malformed)
    | (ds, rest) => exponentPart { text with fraction := ds, plain := false } rest
  | _ => exponentPart text cs

/-- A number after its sign. -/
def wholePart (negative : Bool) (cs : List Char) : NumberScan :=
  match digits cs with
  | ([], []) => .broken truncated
  | ([], _ :: _) => .broken (.both .malformed)
  | (0 :: _ :: _, _) => .broken (.both .malformed)
  | (ds, rest) => fractionPart ⟨negative, ds, [], none, true⟩ rest

end NumberScan

/-! ## Strings -/

/-- The outcome of looking at a string literal after its opening quote. -/
inductive StringScan where
  /-- A closed literal, its characters unless they hold half a surrogate pair, and what follows. -/
  | closed (text : Option (List Char)) (rest : List Char)
  /-- The text stops within the literal. -/
  | broken (stop : Stop)

namespace StringScan

/-- Adds a character in front. -/
def push (c : Char) : StringScan → StringScan
  | .closed text rest => .closed (text.map (c :: ·)) rest
  | .broken stop => .broken stop

/-- Adds half a surrogate pair in front. -/
def halved : StringScan → StringScan
  | .closed _ rest => .closed none rest
  | .broken stop => .broken ⟨.malformed, stop.skip⟩

/-- The value of a hexadecimal digit. -/
def hexValue? (c : Char) : Option Nat :=
  if c.isDigit then some (c.toNat - '0'.toNat)
  else if 'a' ≤ c ∧ c ≤ 'f' then some (c.toNat - 'a'.toNat + 10)
  else if 'A' ≤ c ∧ c ≤ 'F' then some (c.toNat - 'A'.toNat + 10)
  else none

/-- The value of four hexadecimal digits. -/
def hexValues? (a b c d : Char) : Option Nat := do
  let a ← hexValue? a
  let b ← hexValue? b
  let c ← hexValue? c
  let d ← hexValue? d
  return ((a * 16 + b) * 16 + c) * 16 + d

/-- The number of bytes of a text. -/
def byteCount (cs : List Char) : Nat :=
  cs.foldl (fun acc c => acc + c.utf8Size) 0

/-- The character that a one-letter escape stands for. -/
def escaped? (c : Char) : Option Char :=
  if c = '"' ∨ c = '\\' ∨ c = '/' then some c
  else if c = 'b' then some '\x08'
  else if c = 'f' then some '\x0c'
  else if c = 'n' then some '\n'
  else if c = 'r' then some '\r'
  else if c = 't' then some '\t'
  else none

/-- The problem of an escape whose four digits are missing: fewer than four bytes are left, or
they are no digits. -/
def missingDigits (rest : List Char) : StringScan :=
  .broken (.both (if byteCount (rest.take 4) < 4 then .truncated else .malformed))

/-- Whether the text that follows the first half of a surrogate pair ends before it can be told
that the second half is missing. -/
def endsInPair : List Char → Bool
  | [] => true
  | ['\\'] => true
  | '\\' :: 'u' :: rest => byteCount (rest.take 4) < 4
  | _ => false

/-- Looks at the characters of a string literal. -/
def scan : List Char → StringScan
  | [] => .broken (.both .truncated)
  | '"' :: rest => .closed (some []) rest
  | '\\' :: 'u' :: a :: b :: c :: d :: rest =>
    match hexValues? a b c d with
    | none => missingDigits (a :: b :: c :: d :: rest)
    | some n =>
      if n < 0xD800 ∨ 0xDFFF < n then (scan rest).push (Char.ofNat n)
      else if 0xDC00 ≤ n then (scan rest).halved
      else
        match rest with
        | '\\' :: 'u' :: e :: f :: g :: h :: tail =>
          match hexValues? e f g h with
          | none => missingDigits (e :: f :: g :: h :: tail)
          | some m =>
            if 0xDC00 ≤ m ∧ m ≤ 0xDFFF then
              (scan tail).push (Char.ofNat (0x10000 + (n - 0xD800) * 0x400 + (m - 0xDC00)))
            else (scan tail).halved
        | rest => if endsInPair rest then .broken (.both .truncated) else (scan rest).halved
  | '\\' :: 'u' :: rest => missingDigits rest
  | ['\\'] => .broken (.both .truncated)
  | '\\' :: c :: rest =>
    match escaped? c with
    | some e => (scan rest).push e
    | none => .broken (.both .malformed)
  | c :: rest => if c < ' ' then .broken (.both .malformed) else (scan rest).push c

end StringScan

/-! ## Values -/

namespace Draft

/-- Blanks between the parts of a JSON text. -/
def isGap (c : Char) : Bool := c = ' ' || c = '\n' || c = '\t' || c = '\r'

/-- Passes over blanks. -/
def skipGap (cs : List Char) : List Char := cs.dropWhile isGap

/-- Reads the rest of a fixed word. -/
def readWord (value : Draft) : List Char → List Char → Draft × Option (List Char)
  | [], rest => (value, some rest)
  | _ :: _, [] => (.broken (.both .truncated), none)
  | expected :: word, c :: rest =>
    if c = expected then readWord value word rest else (.broken (.both .malformed), none)

/-- Reads a number after its sign. -/
def readNumber (negative : Bool) (cs : List Char) : Draft × Option (List Char) :=
  match NumberScan.wholePart negative cs with
  | .broken stop => (.broken stop, none)
  | .found text rest =>
    match text.value? with
    | some value => (.number value, some rest)
    | none => (.unreadable, some rest)

/-- Reads a string literal after its opening quote. -/
def readString (cs : List Char) : Draft × Option (List Char) :=
  match StringScan.scan cs with
  | .broken stop => (.broken stop, none)
  | .closed (some text) rest => (.string (String.ofList text), some rest)
  | .closed none rest => (.unreadable, some rest)

/-- Items, members, or the like, with the place where they stop and the rest of the text. -/
structure Series (α : Type) where
  /-- What was read. -/
  parts : List α
  /-- Where the text stops. -/
  stop : Option Stop
  /-- What follows. -/
  rest : Option (List Char)

/-- How many lists and objects may be nested in a value that is read. -/
def deepest : Nat := 127

mutual

/-- Reads a value, in which so many levels may be nested. -/
def readValue : Nat → Nat → List Char → Draft × Option (List Char)
  | 0, _, _ => (.broken (.both .truncated), none)
  | fuel + 1, levels, cs =>
    let (value, rest) : Draft × Option (List Char) :=
      match skipGap cs with
      | [] => (.broken (.both .truncated), none)
      | '"' :: rest => readString rest
      | '-' :: rest => readNumber true rest
      | '[' :: rest =>
        match skipGap rest with
        | ']' :: tail => (.array [] none, some tail)
        | [] => (.array [] (some (.both .truncated)), none)
        | tail =>
          let series := readItems fuel (levels - 1) tail
          (.array series.parts series.stop, series.rest)
      | '{' :: rest =>
        match skipGap rest with
        | '}' :: tail => (.object [] none, some tail)
        | tail =>
          let series := readMembers fuel (levels - 1) tail
          (.object series.parts series.stop, series.rest)
      | 'n' :: rest => readWord .null ['u', 'l', 'l'] rest
      | 't' :: rest => readWord (.bool true) ['r', 'u', 'e'] rest
      | 'f' :: rest => readWord (.bool false) ['a', 'l', 's', 'e'] rest
      | c :: rest =>
        if c.isDigit then readNumber false (c :: rest) else (.broken (.both .malformed), none)
    (value.within levels, rest)

/-- Reads an item and those that follow it, with the closing bracket. -/
def readItems : Nat → Nat → List Char → Series Draft
  | 0, _, _ => ⟨[], some (.both .truncated), none⟩
  | fuel + 1, levels, cs =>
    match readValue fuel levels cs with
    | (item, none) => ⟨[item], none, none⟩
    | (item, some rest) =>
      match skipGap rest with
      | [] => ⟨[item], some (.both .truncated), none⟩
      | ']' :: tail => ⟨[item], none, some tail⟩
      | ',' :: tail =>
        let series := readItems fuel levels tail
        ⟨item :: series.parts, series.stop, series.rest⟩
      | _ => ⟨[item], some (.both .malformed), none⟩

/-- Reads a member and those that follow it, with the closing brace. -/
def readMembers : Nat → Nat → List Char → Series (Option String × Draft)
  | 0, _, _ => ⟨[], some (.both .truncated), none⟩
  | fuel + 1, levels, cs =>
    match skipGap cs with
    | [] => ⟨[], some (.both .truncated), none⟩
    | '"' :: rest =>
      match StringScan.scan rest with
      | .broken stop => ⟨[], some stop, none⟩
      | .closed text rest =>
        let name := text.map String.ofList
        match skipGap rest with
        | [] => ⟨[(name, .broken (.both .truncated))], none, none⟩
        | ':' :: rest =>
          match readValue fuel levels rest with
          | (value, none) => ⟨[(name, value)], none, none⟩
          | (value, some rest) =>
            match skipGap rest with
            | [] => ⟨[(name, value)], some (.both .truncated), none⟩
            | '}' :: tail => ⟨[(name, value)], none, some tail⟩
            | ',' :: tail =>
              let series := readMembers fuel levels tail
              ⟨(name, value) :: series.parts, series.stop, series.rest⟩
            | _ => ⟨[(name, value)], some (.both .malformed), none⟩
        | _ => ⟨[(name, .broken (.both .malformed))], none, none⟩
    | _ => ⟨[], some (.both .malformed), none⟩

end

end Draft

/-- The draft of a whole text, and whether more than blanks follows the value. -/
structure Document where
  /-- The draft of the value. -/
  root : Draft
  /-- Whether something follows the value. -/
  trailing : Bool

namespace Document

/-- The document that a text denotes. -/
def ofText (text : String) : Document :=
  let cs := text.toList
  match Draft.readValue (2 * cs.length + 2) Draft.deepest cs with
  | (root, none) => ⟨root, false⟩
  | (root, some rest) => ⟨root, !(Draft.skipGap rest).isEmpty⟩

/-- Reads the value of a document; nothing may follow it. -/
def read {α : Type} (reader : Draft → Except Cause α) (document : Document) : Except Cause α := do
  let value ← reader document.root
  if document.trailing then throw .malformed
  return value

end Document

end FunctionOperator
