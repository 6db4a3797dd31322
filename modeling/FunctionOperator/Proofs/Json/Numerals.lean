import FunctionOperator.Proofs.Json.Tokens

/-!
# Every written number is a number text

Whatever number is written, the reader scans it as one number and goes on behind it, even where it
cannot tell the number's value. Read `Numeral` first, which says how number texts are made up:
`Json.Number.numeral_chars` proves that every number is written as one, with a fraction or an
exponent where it needs them, and `Draft.read_magnitude` that the reader takes one in. Neither says
which number is read: that is `Draft.read_natural` and `Draft.read_negative` for whole numbers.
-/

namespace FunctionOperator

/-! ## How number texts are made up -/

/-- Decimal digits, one at least. -/
structure Digits (cs : List Char) : Prop where
  /-- There is a digit. -/
  ne_nil : cs ≠ []
  /-- There are only digits. -/
  all : ∀ c ∈ cs, c.isDigit = true

/-- The digits before the point: a zero in front stands alone. -/
structure WholeDigits (cs : List Char) : Prop extends Digits cs where
  /-- No digit follows a zero in front. -/
  leading : ∀ rest, cs = '0' :: rest → rest = []

/-- The part behind the point, if there is one. -/
inductive FractionChars : List Char → Prop where
  /-- There is no point. -/
  | none : FractionChars []
  /-- The point and the digits behind it. -/
  | point {cs} (hdigits : Digits cs) : FractionChars ('.' :: cs)

/-- The exponent, if there is one. -/
inductive ExponentChars : List Char → Prop where
  /-- There is no exponent. -/
  | none : ExponentChars []
  /-- The exponent has a plus sign. -/
  | plus {cs} (hdigits : Digits cs) : ExponentChars ('e' :: '+' :: cs)
  /-- The exponent has a minus sign. -/
  | minus {cs} (hdigits : Digits cs) : ExponentChars ('e' :: '-' :: cs)

/-- The text of a number without its sign. -/
inductive Magnitude : List Char → Prop where
  /-- The whole part, the fraction and the exponent. -/
  | of {whole fraction exponent} (hwhole : WholeDigits whole) (hfraction : FractionChars fraction)
    (hexponent : ExponentChars exponent) : Magnitude (whole ++ (fraction ++ exponent))

/-- The text of a number. -/
inductive Numeral : List Char → Prop where
  /-- There is no sign. -/
  | unsigned {cs} (h : Magnitude cs) : Numeral cs
  /-- There is a minus sign. -/
  | negative {cs} (h : Magnitude cs) : Numeral ('-' :: cs)

/-- Only the digit zero denotes zero. -/
theorem eq_zero_of_digit_value {c : Char} (hdigit : c.isDigit = true) (h : digitValue c = 0) :
    c = '0' := by
  simp only [Char.isDigit, Bool.and_eq_true, decide_eq_true_eq, ge_iff_le] at hdigit
  have hlow : '0'.toNat ≤ c.toNat := hdigit.1
  have hhigh : c.toNat ≤ '0'.toNat := Nat.sub_eq_zero_iff_le.1 h
  exact Char.toNat_inj.1 (Nat.le_antisymm hhigh hlow)

/-- A number text starts with a digit. -/
theorem Magnitude.head {cs : List Char} (h : Magnitude cs) (rest : List Char) :
    ∃ c tail, cs ++ rest = c :: tail ∧ c.isDigit = true := by
  cases h with
  | @of whole fraction exponent hwhole =>
    obtain ⟨c, tail, rfl⟩ := List.exists_cons_of_ne_nil hwhole.ne_nil
    exact ⟨c, tail ++ (fraction ++ exponent) ++ rest, rfl, hwhole.all c List.mem_cons_self⟩

/-! ## Number texts are scanned -/

namespace NumberScan

variable {cs rest : List Char}

/-- What follows the digits behind the point is no digit. -/
theorem head_exponent (h : ExponentChars cs) (hrest : Delimited rest) :
    ∀ c ∈ (cs ++ rest).head?, c.isDigit = false ∧ c ≠ '.' := by
  cases h with
  | none => exact fun c hc => ⟨(hrest c hc).1, (hrest c hc).2.1⟩
  | plus | minus =>
    rintro c ⟨⟩
    decide

/-- An exponent is scanned. -/
theorem exponent_part (h : ExponentChars cs) (text : NumberText) :
    ∃ found, ∀ rest, Delimited rest → exponentPart text (cs ++ rest) = .found found rest := by
  cases h with
  | none =>
    refine ⟨text, fun rest hrest => ?_⟩
    cases rest with
    | nil => rfl
    | cons c rest =>
      obtain ⟨-, -, he, hE⟩ := hrest c rfl
      simp [exponentPart, he, hE]
  | @plus cs hdigits =>
    refine ⟨{ text with
      exponent := some (digitsValue (cs.map digitValue) : Nat), plain := false }, fun rest hrest => ?_⟩
    obtain ⟨c, tail, rfl⟩ := List.exists_cons_of_ne_nil hdigits.ne_nil
    have hscan := digits_append hdigits.all fun c hc => (hrest c hc).1
    simp only [List.cons_append, List.map_cons] at hscan ⊢
    simp [exponentPart, hscan]
  | @minus cs hdigits =>
    refine ⟨{ text with
      exponent := some (-(digitsValue (cs.map digitValue) : Nat)), plain := false },
      fun rest hrest => ?_⟩
    obtain ⟨c, tail, rfl⟩ := List.exists_cons_of_ne_nil hdigits.ne_nil
    have hscan := digits_append hdigits.all fun c hc => (hrest c hc).1
    simp only [List.cons_append, List.map_cons] at hscan ⊢
    simp [exponentPart, hscan]

/-- A fraction with its exponent is scanned. -/
theorem fraction_part {fraction exponent : List Char} (h : FractionChars fraction)
    (hexponent : ExponentChars exponent) (text : NumberText) :
    ∃ found, ∀ rest, Delimited rest →
      fractionPart text (fraction ++ exponent ++ rest) = .found found rest := by
  cases h with
  | none =>
    obtain ⟨found, hfound⟩ := exponent_part hexponent text
    refine ⟨found, fun rest hrest => ?_⟩
    rw [List.nil_append, ← hfound rest hrest]
    cases htail : exponent ++ rest with
    | nil => rfl
    | cons c tail =>
      have hpoint : c ≠ '.' := (head_exponent hexponent hrest c (by rw [htail]; rfl)).2
      simp [fractionPart, hpoint]
  | @point cs hdigits =>
    obtain ⟨c, tail, rfl⟩ := List.exists_cons_of_ne_nil hdigits.ne_nil
    obtain ⟨found, hfound⟩ := exponent_part hexponent
      { text with fraction := (c :: tail).map digitValue, plain := false }
    refine ⟨found, fun rest hrest => ?_⟩
    have hnext : ∀ c ∈ (exponent ++ rest).head?, c.isDigit = false :=
      fun c hc => (head_exponent hexponent hrest c hc).1
    have hscan := digits_append hdigits.all hnext
    rw [← hfound rest hrest]
    rw [List.map_cons] at hscan ⊢
    simp only [List.cons_append, List.append_assoc] at hscan ⊢
    simp only [fractionPart, hscan]

/-- A number text is scanned. -/
theorem whole_part_magnitude (h : Magnitude cs) (negative : Bool) :
    ∃ found, ∀ rest, Delimited rest → wholePart negative (cs ++ rest) = .found found rest := by
  cases h with
  | @of whole fraction exponent hwhole hfraction hexponent =>
    obtain ⟨c, tail, rfl⟩ := List.exists_cons_of_ne_nil hwhole.ne_nil
    obtain ⟨found, hfound⟩ := fraction_part hfraction hexponent
      ⟨negative, (c :: tail).map digitValue, [], none, true⟩
    refine ⟨found, fun rest hrest => ?_⟩
    have hnext : ∀ c ∈ (fraction ++ exponent ++ rest).head?, c.isDigit = false := by
      cases hfraction with
      | none => exact fun c hc => (head_exponent hexponent hrest c hc).1
      | point =>
        rintro c ⟨⟩
        decide
    rw [List.append_assoc, wholePart, digits_append hwhole.all hnext, ← hfound rest hrest]
    -- a zero in front is refused before another digit, and there is none
    cases tail with
    | nil =>
      rw [List.map_cons, List.map_nil]
      cases digitValue c <;> rfl
    | cons d tail =>
      have hzero : digitValue c ≠ 0 := fun hzero => by
        have hc : c = '0' := eq_zero_of_digit_value (hwhole.all c List.mem_cons_self) hzero
        cases hwhole.leading _ (by rw [hc])
      simp [hzero]

end NumberScan

/-- A number text is read as a number, or passed over if its value is beyond the range. -/
theorem Draft.read_magnitude {cs : List Char} (h : Magnitude cs) (negative : Bool) :
    ∃ draft : Draft, draft.skip = .ok () ∧ (∀ levels, draft.within levels = draft) ∧
      ∀ rest, Delimited rest → readNumber negative (cs ++ rest) = (draft, some rest) := by
  obtain ⟨found, hfound⟩ := NumberScan.whole_part_magnitude h negative
  cases hvalue : found.value? with
  | some value =>
    refine ⟨.number value, rfl, fun levels => by cases levels <;> rfl, fun rest hrest => ?_⟩
    simp only [readNumber, hfound rest hrest, hvalue]
  | none =>
    refine ⟨.unreadable, rfl, fun levels => by cases levels <;> rfl, fun rest hrest => ?_⟩
    simp only [readNumber, hfound rest hrest, hvalue]

/-! ## Numbers are written as number texts -/

/-- The digits of a number are digits. -/
theorem digits_to_digits (n : Nat) : Digits (Nat.toDigits 10 n) :=
  ⟨Nat.toDigits_ne_nil, fun _ hc => Nat.isDigit_of_mem_toDigits (by decide) (by decide) hc⟩

/-- Digits that do not start with a zero may stand before the point. -/
theorem whole_digits_cons {c : Char} {cs : List Char} (hall : ∀ d ∈ c :: cs, d.isDigit = true)
    (hc : digitValue c ≠ 0) : WholeDigits (c :: cs) where
  ne_nil := List.cons_ne_nil _ _
  all := hall
  leading rest heq := by
    cases heq
    exact absurd rfl hc

/-- The digits of a number may stand before the point. -/
theorem whole_digits_to_digits (n : Nat) : WholeDigits (Nat.toDigits 10 n) := by
  rcases Nat.eq_zero_or_pos n with rfl | hpos
  · exact ⟨digits_to_digits 0, fun rest heq => (List.cons.inj heq).2.symm⟩
  · obtain ⟨c, cs, hdigits, hc⟩ := leading_digit hpos
    have hall := (digits_to_digits n).all
    rw [hdigits] at hall ⊢
    exact whole_digits_cons hall hc

/-- Digits alone are a number text. -/
theorem WholeDigits.magnitude {cs : List Char} (h : WholeDigits cs) : Magnitude cs := by
  have hmagnitude := Magnitude.of h .none .none
  simpa using hmagnitude

/-- Digits, a point and digits are a number text. -/
theorem WholeDigits.point {cs fraction : List Char} (h : WholeDigits cs)
    (hfraction : Digits fraction) : Magnitude (cs ++ '.' :: fraction) := by
  have hmagnitude := Magnitude.of h (.point hfraction) .none
  simpa using hmagnitude

namespace Binary64

variable {d : Decimal}

/-- The text of zeros is made of digits. -/
theorem digit_of_zeros {count : Nat} {c : Char} (h : c ∈ (zeros count).toList) :
    c.isDigit = true := by
  rw [zeros, String.toList_ofList] at h
  rw [List.eq_of_mem_replicate h]
  decide

/-- The digits of a decimal that is not zero, without a zero in front. -/
theorem exists_digits (hpos : 0 < d.digits) :
    ∃ c cs, Nat.toDigits 10 d.digits = c :: cs ∧ digitValue c ≠ 0 ∧
      ∀ e ∈ c :: cs, e.isDigit = true := by
  obtain ⟨c, cs, hdigits, hc⟩ := leading_digit hpos
  exact ⟨c, cs, hdigits, hc, hdigits ▸ (digits_to_digits _).all⟩

/-- A size without places behind the point is written with digits only. -/
theorem whole_digits_positional (hpos : 0 < d.digits) (hexponent : 0 ≤ d.exponent) :
    WholeDigits (positional d).toList := by
  obtain ⟨c, cs, hdigits, hc, hall⟩ := exists_digits hpos
  have htext : (positional d).toList = c :: (cs ++ (zeros d.exponent.toNat).toList) := by
    simp [positional, if_pos hexponent, hdigits]
  rw [htext]
  refine whole_digits_cons (fun e he => ?_) hc
  rw [← List.cons_append] at he
  exact (List.mem_append.1 he).elim (hall e) digit_of_zeros

/-- A size with places behind the point is a number text with a fraction. -/
theorem magnitude_positional (hpos : 0 < d.digits) (hexponent : d.exponent < 0) :
    Magnitude (positional d).toList := by
  obtain ⟨c, cs, hdigits, hc, hall⟩ := exists_digits hpos
  have hlength : (toString d.digits).length = cs.length + 1 := by
    have htext : (toString d.digits).toList = c :: cs := Nat.toList_repr.trans hdigits
    rw [← String.length_toList, htext, List.length_cons]
  rw [positional]
  simp only [if_neg (Int.not_le.2 hexponent), hlength, Int.natCast_add, Int.natCast_one]
  split
  · next hpoint =>
    obtain ⟨k, hk⟩ : ∃ k : Nat, (cs.length + 1 + d.exponent).toNat = k + 1 :=
      ⟨_, (Nat.succ_pred_eq_of_pos (by omega)).symm⟩
    have hfraction : Digits (cs.drop k) := by
      refine ⟨fun hnil => ?_, fun e he => hall e (List.mem_cons_of_mem _ (List.mem_of_mem_drop he))⟩
      have hshort := List.drop_eq_nil_iff.1 hnil
      omega
    have hwhole : WholeDigits (c :: cs.take k) := by
      refine whole_digits_cons (fun e he => hall e ?_) hc
      exact (List.take_sublist (k + 1) (c :: cs)).subset he
    simpa [hdigits, hk] using hwhole.point hfraction
  · have hfraction : Digits ((zeros (-(cs.length + 1 + d.exponent)).toNat).toList ++ c :: cs) := by
      refine ⟨List.append_ne_nil_of_right_ne_nil _ (List.cons_ne_nil _ _), fun e he => ?_⟩
      exact (List.mem_append.1 he).elim digit_of_zeros (hall e)
    simpa [hdigits] using (whole_digits_to_digits 0).point hfraction

/-- Digits behind the point are left out with the point if there are none. -/
theorem fraction_chars {cs : List Char} (hall : ∀ c ∈ cs, c.isDigit = true) :
    FractionChars (if (String.ofList cs).isEmpty then "" else "." ++ String.ofList cs).toList := by
  cases cs with
  | nil => exact .none
  | cons c cs =>
    have hsome : (String.ofList (c :: cs)).isEmpty = false := by simp
    have hdigits : Digits (c :: cs) := ⟨List.cons_ne_nil _ _, hall⟩
    simpa [hsome] using FractionChars.point hdigits

/-- The exponent of a size with so many digits before the point. -/
theorem exponent_chars (point : Int) :
    ExponentChars ((if 0 < point then "e+" else "e") ++ toString (point - 1)).toList := by
  rcases Int.lt_or_le 0 point with hpos | hneg
  · obtain ⟨n, hn⟩ := Int.eq_ofNat_of_zero_le (show 0 ≤ point - 1 by omega)
    have htext : (toString (point - 1)).toList = Nat.toDigits 10 n := by
      rw [hn]
      exact Nat.toList_repr
    rw [if_pos hpos, String.toList_append, htext]
    exact .plus (digits_to_digits n)
  · have htext : (toString (point - 1)).toList = '-' :: Nat.toDigits 10 (point - 1).natAbs :=
      Json.Number.chars_negative (by omega)
    rw [if_neg (by omega), String.toList_append, htext]
    exact .minus (digits_to_digits _)

/-- A number of double precision is written as a number text. -/
theorem numeral_to_document (x : Binary64) : Numeral x.toDocument.toList := by
  suffices hsize : ∃ size : String, Magnitude size.toList ∧
      x.toDocument = (if x.negative then "-" else "") ++ size by
    obtain ⟨size, hsize, htext⟩ := hsize
    rw [htext, String.toList_append]
    cases x.negative with
    | true => exact .negative hsize
    | false => exact .unsigned hsize
  refine ⟨_, ?_, rfl⟩
  dsimp only
  generalize x.shortest = d
  split
  · exact (whole_digits_to_digits 0).point (digits_to_digits 0)
  · next hzero =>
    have hpos : 0 < d.digits := Nat.pos_of_ne_zero hzero
    split
    · split
      · next hexponent =>
        rw [String.toList_append]
        exact (whole_digits_positional hpos hexponent).point (digits_to_digits 0)
      · next hexponent => exact magnitude_positional hpos (Int.not_le.1 hexponent)
    · obtain ⟨c, cs, hdigits, hc, hall⟩ := exists_digits hpos
      have hwhole : WholeDigits [c] :=
        whole_digits_cons (fun e he => hall e (by simp_all)) hc
      have hfraction := fraction_chars fun e he => hall e (List.mem_cons_of_mem _ he)
      have hmagnitude := Magnitude.of hwhole hfraction
        (exponent_chars ((toString d.digits).length + d.exponent))
      simpa [hdigits] using hmagnitude

end Binary64

/-- Every number is written as a number text. -/
theorem Json.Number.numeral_chars (value : Json.Number) : Numeral value.chars := by
  cases value with
  | double x => exact x.numeral_to_document
  | whole value =>
    rcases Int.lt_or_le value 0 with hneg | hnat
    · rw [chars_negative hneg]
      exact .negative (whole_digits_to_digits _).magnitude
    · obtain ⟨n, rfl⟩ := Int.eq_ofNat_of_zero_le hnat
      rw [show (Json.Number.whole n).chars = _ from chars_natural n]
      exact .unsigned (whole_digits_to_digits n).magnitude

end FunctionOperator
