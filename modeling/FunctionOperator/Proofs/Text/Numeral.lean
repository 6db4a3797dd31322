import FunctionOperator.Text.Numeral
import Mathlib.Data.List.Induction
import Mathlib.Data.Nat.Digits.Defs

/-!
# Which texts are whole numbers

A whole number of a bounded type is an optional sign and decimal digits whose value the type has.
Read `Denotes` and `IntegerType.Reads` first, which say so without a look at the reading: `Denotes`
says what a text denotes, and `IntegerType.Reads` adds the bounds that follow from the number of
bits. The theorems `read_uint16_iff`, `read_uint64_iff` and `read_int32_iff` say that just these
texts are read, with the number that they denote.
-/

namespace FunctionOperator.Text

/-- Decimal digits, one at least, and the number that they denote. -/
structure DigitsDenote (cs : List Char) (n : Nat) : Prop where
  /-- There is a digit. -/
  ne_nil : cs ≠ []
  /-- There are only digits. -/
  all : ∀ c ∈ cs, c.isDigit = true
  /-- The last digit counts least. -/
  value : n = Nat.ofDigits 10 (cs.reverse.map fun c => c.toNat - '0'.toNat)

/-- A text denotes a whole number. A minus sign is admitted only where there are negative numbers,
also before a zero. -/
inductive Denotes (signed : Bool) : List Char → Int → Prop where
  /-- There is no sign. -/
  | plain {cs} {n : Nat} (h : DigitsDenote cs n) : Denotes signed cs n
  /-- There is a plus sign. -/
  | plus {cs} {n : Nat} (h : DigitsDenote cs n) : Denotes signed ('+' :: cs) n
  /-- There is a minus sign. -/
  | minus {cs} {n : Nat} (hsigned : signed = true) (h : DigitsDenote cs n) :
    Denotes signed ('-' :: cs) (-n)

/-- A type of whole numbers. -/
structure IntegerType where
  /-- Whether it has negative numbers. -/
  signed : Bool
  /-- The number of bits. -/
  bits : Nat

namespace IntegerType

/-- The least number of a type. -/
def least (type : IntegerType) : Int :=
  if type.signed then -2 ^ (type.bits - 1) else 0

/-- The greatest number of a type. -/
def greatest (type : IntegerType) : Int :=
  if type.signed then 2 ^ (type.bits - 1) - 1 else 2 ^ type.bits - 1

/-- The numbers of 16 bits that are not negative. -/
def uint16 : IntegerType := ⟨false, 16⟩

/-- The numbers of 64 bits that are not negative. -/
def uint64 : IntegerType := ⟨false, 64⟩

/-- The numbers of 32 bits. -/
def int32 : IntegerType := ⟨true, 32⟩

/-- A text denotes a number of a type. -/
def Reads (type : IntegerType) (text : String) (value : Int) : Prop :=
  Denotes type.signed text.toList value ∧ type.least ≤ value ∧ value ≤ type.greatest

end IntegerType

/-! ## Digits -/

/-- The value of digits, if there are only digits. -/
def foldDigits (cs : List Char) : Option Nat :=
  cs.foldl (fun acc c => acc.bind fun n =>
    if c.isDigit then some (10 * n + (c.toNat - '0'.toNat)) else none) (some 0)

/-- One digit more. -/
theorem fold_digits_concat (cs : List Char) (c : Char) : foldDigits (cs ++ [c]) =
    (foldDigits cs).bind fun n =>
      if c.isDigit then some (10 * n + (c.toNat - '0'.toNat)) else none := by
  rw [foldDigits, List.foldl_append]
  rfl

/-- Digits have the value that they denote. -/
theorem fold_digits_iff {cs : List Char} {n : Nat} : foldDigits cs = some n ↔
    (∀ c ∈ cs, c.isDigit = true) ∧
      n = Nat.ofDigits 10 (cs.reverse.map fun c => c.toNat - '0'.toNat) := by
  induction cs using List.reverseRecOn generalizing n with
  | nil =>
    rw [foldDigits, List.foldl_nil, Option.some.injEq]
    exact ⟨fun h => ⟨nofun, h.symm⟩, fun h => h.2.symm⟩
  | append_singleton cs c ih =>
    rw [fold_digits_concat, Option.bind_eq_some_iff, List.reverse_append, List.reverse_singleton,
      List.singleton_append, List.map_cons, Nat.ofDigits_cons, List.forall_mem_append,
      List.forall_mem_singleton]
    constructor
    · rintro ⟨m, hm, hc⟩
      obtain ⟨hall, rfl⟩ := ih.1 hm
      split at hc
      · next hdigit =>
        refine ⟨⟨hall, hdigit⟩, ?_⟩
        rw [← Option.some.inj hc, add_comm]
      · cases hc
    · rintro ⟨⟨hall, hdigit⟩, rfl⟩
      refine ⟨_, ih.2 ⟨hall, rfl⟩, ?_⟩
      rw [if_pos hdigit, add_comm]

/-- Digits are read as what they denote. -/
theorem digits_value_iff {cs : List Char} {n : Nat} :
    digitsValue? cs = some n ↔ DigitsDenote cs n := by
  by_cases hcs : cs = []
  · subst hcs
    exact ⟨fun h => absurd h (by simp [digitsValue?]), fun h => absurd rfl h.ne_nil⟩
  · have hfold : digitsValue? cs = foldDigits cs := if_neg (by simpa using hcs)
    rw [hfold, fold_digits_iff]
    exact ⟨fun ⟨hall, hn⟩ => ⟨hcs, hall, hn⟩, fun h => ⟨h.all, h.value⟩⟩

/-! ## Signs -/

variable {signed : Bool} {cs : List Char} {value : Int}

/-- Behind a plus sign there are digits. -/
theorem denotes_plus : Denotes signed ('+' :: cs) value ↔
    ∃ n : Nat, DigitsDenote cs n ∧ n = value := by
  constructor
  · intro h
    cases h with
    | plain h => exact absurd (h.all '+' List.mem_cons_self) (by decide)
    | plus h => exact ⟨_, h, rfl⟩
  · rintro ⟨n, h, rfl⟩
    exact .plus h

/-- Behind a minus sign there are digits. -/
theorem denotes_minus : Denotes signed ('-' :: cs) value ↔
    signed = true ∧ ∃ n : Nat, DigitsDenote cs n ∧ -n = value := by
  constructor
  · intro h
    cases h with
    | plain h => exact absurd (h.all '-' List.mem_cons_self) (by decide)
    | minus hsigned h => exact ⟨hsigned, _, h, rfl⟩
  · rintro ⟨hsigned, n, h, rfl⟩
    exact .minus hsigned h

/-- Without a sign there are digits. -/
theorem denotes_plain (hplus : ∀ rest, cs ≠ '+' :: rest) (hminus : ∀ rest, cs ≠ '-' :: rest) :
    Denotes signed cs value ↔ ∃ n : Nat, DigitsDenote cs n ∧ n = value := by
  constructor
  · intro h
    cases h with
    | plain h => exact ⟨_, h, rfl⟩
    | plus => exact absurd rfl (hplus _)
    | minus => exact absurd rfl (hminus _)
  · rintro ⟨n, h, rfl⟩
    exact .plain h

/-- The number of a text with an optional sign. -/
def signedValue? (signed : Bool) (cs : List Char) : Option Int :=
  match cs with
  | '+' :: rest => (digitsValue? rest).map Int.ofNat
  | '-' :: rest => if signed then (digitsValue? rest).map fun n => -Int.ofNat n else none
  | cs => (digitsValue? cs).map Int.ofNat

/-- A text with an optional sign is read as what it denotes. -/
theorem signed_value_iff : signedValue? signed cs = some value ↔ Denotes signed cs value := by
  unfold signedValue?
  split
  · rw [denotes_plus, Option.map_eq_some_iff]
    simp only [digits_value_iff, Int.ofNat_eq_natCast]
  · rw [denotes_minus]
    split
    · next hsigned =>
      rw [Option.map_eq_some_iff]
      simp only [digits_value_iff, Int.ofNat_eq_natCast, hsigned, true_and]
    · next hsigned => simp [hsigned]
  · next hplus hminus =>
    rw [denotes_plain hplus hminus, Option.map_eq_some_iff]
    simp only [digits_value_iff, Int.ofNat_eq_natCast]

/-! ## Numbers of a type -/

/-- Numbers with either sign are read within their bounds. -/
theorem read_int_iff {least greatest : Int} {text : String} :
    readInt? least greatest text = some value ↔
      Denotes true text.toList value ∧ least ≤ value ∧ value ≤ greatest := by
  have hread : readInt? least greatest text =
      (signedValue? true text.toList).filter fun n => least ≤ n && n ≤ greatest := rfl
  rw [hread, Option.filter_eq_some_iff, signed_value_iff]
  simp only [Bool.and_eq_true, decide_eq_true_eq]

/-- Without a minus sign the sign does not matter. -/
theorem signed_value_unsigned (cs : List Char) : signedValue? false cs =
    (digitsValue? (match cs with
      | '+' :: rest => rest
      | cs => cs)).map Int.ofNat := by
  unfold signedValue?
  split
  · rfl
  · next rest =>
    have hnone : digitsValue? ('-' :: rest) = none := Option.eq_none_iff_forall_ne_some.2
      fun n hn => absurd ((digits_value_iff.1 hn).all '-' List.mem_cons_self) (by decide)
    rw [if_neg (by decide)]
    exact (congrArg (Option.map Int.ofNat) hnone).symm
  · next hplus _ =>
    split
    · exact absurd rfl (hplus _)
    · rfl

/-- Numbers without a minus sign are read up to their bound. -/
theorem read_nat_iff {greatest : Nat} {text : String} :
    (readNat? greatest text).map Int.ofNat = some value ↔
      Denotes false text.toList value ∧ 0 ≤ value ∧ value ≤ greatest := by
  rw [← signed_value_iff, signed_value_unsigned, Option.map_eq_some_iff, Option.map_eq_some_iff]
  constructor
  · rintro ⟨n, hn, rfl⟩
    obtain ⟨hvalue, hle⟩ := Option.filter_eq_some_iff.1 hn
    refine ⟨⟨n, hvalue, rfl⟩, Int.natCast_nonneg n, ?_⟩
    simpa using hle
  · rintro ⟨⟨n, hvalue, rfl⟩, -, hle⟩
    refine ⟨n, Option.filter_eq_some_iff.2 ⟨hvalue, ?_⟩, rfl⟩
    simpa using hle

namespace IntegerType

/-- The texts of numbers of 16 bits are read. -/
theorem read_uint16_iff {text : String} :
    (readUInt16? text).map Int.ofNat = some value ↔ uint16.Reads text value :=
  read_nat_iff

/-- The texts of numbers of 64 bits are read. -/
theorem read_uint64_iff {text : String} :
    (readUInt64? text).map Int.ofNat = some value ↔ uint64.Reads text value :=
  read_nat_iff

/-- The texts of numbers of 32 bits are read. -/
theorem read_int32_iff {text : String} :
    readInt32? text = some value ↔ int32.Reads text value :=
  read_int_iff

end IntegerType

end FunctionOperator.Text
