import FunctionOperator.Json.Printer
import FunctionOperator.Json.Reader
import Mathlib.Tactic.SplitIfs

/-!
# Written strings and numbers are read back

The two scanners of the reader meet what the printer writes. Read `Draft.read_string` and
`Draft.read_natural` first. A string literal is read character by character, so `scan_escape` has
one case for each kind of escape; a whole number is read as long as no more digits follow it.
-/

namespace FunctionOperator

namespace StringScan

/-- A two-digit escape of a control character denotes this character. -/
theorem hex_values_control {n : Nat} (h : n < 32) :
    hexValues? '0' '0' (Json.hexDigit (n / 16)) (Json.hexDigit (n % 16)) = some n := by
  have hall : ∀ n < 32,
      hexValues? '0' '0' (Json.hexDigit (n / 16)) (Json.hexDigit (n % 16)) = some n := by
    decide
  exact hall n h

/-- A character that needs no escape is read as it is. -/
theorem scan_plain {c : Char} {rest : List Char} (hquote : c ≠ '"') (hslash : c ≠ '\\')
    (hblank : ' ' ≤ c) : scan (c :: rest) = (scan rest).push c := by
  have hlow : ¬ c < ' ' := Char.not_lt.2 hblank
  -- only the quote and the backslash are read by the cases before
  rw [scan, if_neg hlow] <;> grind

/-- A written character is read back. -/
theorem scan_escape (c : Char) (rest : List Char) :
    scan (Json.escapeChar c ++ rest) = (scan rest).push c := by
  unfold Json.escapeChar
  split_ifs with hquote hslash hblank hb hf hn hr ht
  · subst hquote
    simp [scan, escaped?]
  · subst hslash
    simp [scan, escaped?]
  · exact scan_plain hquote hslash hblank
  · subst hb
    simp [scan, escaped?]
  · subst hf
    simp [scan, escaped?]
  · subst hn
    simp [scan, escaped?]
  · subst hr
    simp [scan, escaped?]
  · subst ht
    simp [scan, escaped?]
  · have hcode : c.toNat < 32 := by
      have hlow : c < ' ' := Char.not_le.1 hblank
      exact hlow
    have hsmall : c.toNat < 0xD800 := by omega
    simp [scan, hex_values_control hcode, hsmall]

/-- A written text is read back. -/
theorem scan_string (s rest : List Char) :
    scan (s.flatMap Json.escapeChar ++ '"' :: rest) = .closed (some s) rest := by
  induction s with
  | nil => simp [scan]
  | cons c s ih => rw [List.flatMap_cons, List.append_assoc, scan_escape, ih, push, Option.map_some]

end StringScan

/-! ## Whole numbers -/

/-- The value of a decimal digit. -/
def digitValue (c : Char) : Nat := c.toNat - '0'.toNat

/-- The number that digits denote. -/
def numberOf (digits : List Nat) : Nat := digits.foldl (10 * · + ·) 0

/-- Digits that follow never make a number smaller. -/
theorem le_foldl_digits (digits : List Nat) (start : Nat) :
    start ≤ digits.foldl (10 * · + ·) start := by
  induction digits generalizing start with
  | nil => exact Nat.le_refl _
  | cons digit digits ih =>
    have hgrown : start ≤ 10 * start + digit := by omega
    exact Nat.le_trans hgrown (ih _)

/-- The digits of a number denote it. -/
theorem number_of_digits (n : Nat) : numberOf ((Nat.toDigits 10 n).map digitValue) = n := by
  rw [numberOf, List.foldl_map]
  exact Nat.ofDigitChars_ten_toDigits

/-- A positive number has no leading zero. -/
theorem leading_digit {n : Nat} (h : 0 < n) :
    ∃ c cs, Nat.toDigits 10 n = c :: cs ∧ digitValue c ≠ 0 := by
  induction n using Nat.strongRecOn with
  | ind n ih =>
    by_cases hsmall : n < 10
    · refine ⟨n.digitChar, [], Nat.toDigits_of_lt_base hsmall, ?_⟩
      have hvalue : digitValue n.digitChar = n := Nat.toNat_digitChar_sub_48_of_lt_ten hsmall
      omega
    · obtain ⟨c, cs, hdigits, hc⟩ := ih (n / 10) (by omega) (by omega)
      refine ⟨c, cs ++ [(n % 10).digitChar], ?_, hc⟩
      rw [Nat.toDigits_of_base_le (by decide) (by omega), hdigits, List.cons_append]

/-- A text in which no number goes on. -/
def Delimited (rest : List Char) : Prop :=
  ∀ c ∈ rest.head?, c.isDigit = false ∧ c ≠ '.' ∧ c ≠ 'e' ∧ c ≠ 'E'

/-- No number goes on at the end of a text. -/
theorem delimited_nil : Delimited [] := nofun

/-- Digits are taken up to what is no digit. -/
theorem NumberScan.digits_append {cs rest : List Char} (hall : ∀ c ∈ cs, c.isDigit = true)
    (hrest : ∀ c ∈ rest.head?, c.isDigit = false) :
    NumberScan.digits (cs ++ rest) = (cs.map digitValue, rest) := by
  have htake : rest.takeWhile Char.isDigit = [] ∧ rest.dropWhile Char.isDigit = rest := by
    cases rest with
    | nil => exact ⟨rfl, rfl⟩
    | cons c rest =>
      have hc : c.isDigit = false := hrest c rfl
      simp [hc]
  rw [NumberScan.digits, List.takeWhile_append_of_pos hall, List.dropWhile_append_of_pos hall,
    htake.1, htake.2, List.append_nil]
  rfl

/-- The digits of a number are all digits of the text, and nothing after them is. -/
theorem digits_of_number (n : Nat) {rest : List Char} (hrest : Delimited rest) :
    NumberScan.digits (Nat.toDigits 10 n ++ rest) =
      ((Nat.toDigits 10 n).map digitValue, rest) :=
  NumberScan.digits_append
    (fun _ hc => Nat.isDigit_of_mem_toDigits (by decide) (by decide) hc)
    fun c hc => (hrest c hc).1

/-- The digits of a number are read as a whole number. -/
theorem whole_part (negative : Bool) (n : Nat) {rest : List Char} (hrest : Delimited rest) :
    NumberScan.wholePart negative (Nat.toDigits 10 n ++ rest) =
      .found ⟨negative, (Nat.toDigits 10 n).map digitValue, [], none, true⟩ rest := by
  have hfraction (text : NumberText) : NumberScan.fractionPart text rest = .found text rest := by
    cases rest with
    | nil => rfl
    | cons c rest =>
      obtain ⟨-, hpoint, he, hE⟩ := hrest c rfl
      simp [NumberScan.fractionPart, NumberScan.exponentPart, hpoint, he, hE]
  rw [NumberScan.wholePart, digits_of_number n hrest]
  rcases Nat.eq_zero_or_pos n with rfl | hpos
  · simp [digitValue, hfraction]
  · obtain ⟨c, cs, hdigits, hc⟩ := leading_digit hpos
    rw [hdigits]
    simp [hc, hfraction]

namespace NumberText

/-- Digits whose number fits 64 bits are all kept. -/
theorem gather_of_lt {digits : List Nat} {significand : Nat}
    (h : digits.foldl (10 * · + ·) significand < 18_446_744_073_709_551_616) :
    gather significand digits = (digits.foldl (10 * · + ·) significand, []) := by
  induction digits generalizing significand with
  | nil => rfl
  | cons digit digits ih =>
    have hstart : 10 * significand + digit < 18_446_744_073_709_551_616 :=
      Nat.lt_of_le_of_lt (le_foldl_digits digits _) h
    rw [gather, if_pos hstart]
    exact ih h

/-- The digits of a number of at most 64 bits are all kept. -/
theorem gather_digits {n : Nat} (h : n < 18_446_744_073_709_551_616) :
    gather 0 ((Nat.toDigits 10 n).map digitValue) = (n, []) := by
  have hnumber := number_of_digits n
  rw [numberOf] at hnumber
  rw [gather_of_lt (by rw [hnumber]; exact h), hnumber]

end NumberText

namespace Draft

/-- The digits of a number are read as this number. -/
theorem read_natural {n : Nat} (h : n < 18_446_744_073_709_551_616) {rest : List Char}
    (hrest : Delimited rest) :
    readNumber false (Nat.toDigits 10 n ++ rest) = (.number (.whole n), some rest) := by
  simp [readNumber, whole_part false n hrest, NumberText.value?, NumberText.gather_digits h]

/-- The digits of a number after a minus sign are read as its negative. -/
theorem read_negative {n : Nat} (hpos : 0 < n) (h : n ≤ 9_223_372_036_854_775_808) {rest : List Char}
    (hrest : Delimited rest) :
    readNumber true (Nat.toDigits 10 n ++ rest) = (.number (.whole (-n)), some rest) := by
  have hfits : n < 18_446_744_073_709_551_616 := by omega
  have hne : n ≠ 0 := by omega
  have hlow : n ≤ 9223372036854775808 := h
  simp [readNumber, whole_part true n hrest, NumberText.value?, NumberText.gather_digits hfits, hne,
    hlow]

/-- A string literal is read as the text it was written for. -/
theorem read_string (s : String) (rest : List Char) :
    readString (s.toList.flatMap Json.escapeChar ++ '"' :: rest) = (.string s, some rest) := by
  simp [readString, StringScan.scan_string]

end Draft

/-- The characters of a number that is not negative are its digits. -/
theorem Json.Number.chars_natural (n : Nat) :
    (Json.Number.whole n).chars = Nat.toDigits 10 n :=
  Nat.toList_repr

/-- The characters of a negative number are a minus sign and digits. -/
theorem Json.Number.chars_negative {value : Int} (h : value < 0) :
    (Json.Number.whole value).chars = '-' :: Nat.toDigits 10 value.natAbs := by
  have habs : (-value).toNat = value.natAbs := by omega
  rw [Json.Number.chars, Int.toString_eq_repr, Int.repr_eq_if, if_neg (by omega), habs]
  simp [String.toList_append]

end FunctionOperator
