import FunctionOperator.Proofs.Json.Numerals
import Mathlib.Data.List.Forall2

/-!
# Written values are read back

Every value without fractions whose numbers fit 64 bits and whose nesting is not too deep is read
back from its text. Read `Json.Plain` first, which says this of a value, and then `of_text_render`.
The proof follows the value: `Draft.Reads` is what holds of its parts, one lemma for each kind of
value, and lists and objects are read along their items.
-/

namespace FunctionOperator

/-- A value that can be written and read back: without fractions, with whole numbers of at most 64
bits, and with lists and objects nested in at most so many levels. -/
inductive Json.Plain : Nat → Json → Prop where
  /-- The value `null`. -/
  | null {levels} : Plain levels .null
  /-- A truth value. -/
  | bool {levels value} : Plain levels (.bool value)
  /-- A whole number. -/
  | whole {levels value} (hmin : -9_223_372_036_854_775_808 ≤ value)
      (hmax : value < 18_446_744_073_709_551_616) :
    Plain levels (.number (.whole value))
  /-- A text. -/
  | string {levels value} : Plain levels (.string value)
  /-- A list of such values, one level below. -/
  | array {levels items} (hitems : ∀ item ∈ items, Plain levels item) :
    Plain (levels + 1) (.array items)
  /-- An object of such values, one level below. -/
  | object {levels members} (hmembers : ∀ entry ∈ members, Plain levels entry.2) :
    Plain (levels + 1) (.object members)

namespace Json.Plain

/-- More levels do no harm. -/
theorem mono {levels more : Nat} {value : Json} (h : Plain levels value) (hle : levels ≤ more) :
    Plain more value := by
  induction h generalizing more with
  | null => exact .null
  | bool => exact .bool
  | whole hmin hmax => exact .whole hmin hmax
  | string => exact .string
  | array _ ih =>
    obtain ⟨rest, rfl⟩ : ∃ rest, more = rest + 1 := ⟨more - 1, by omega⟩
    exact .array fun item hitem => ih item hitem (by omega)
  | object _ ih =>
    obtain ⟨rest, rfl⟩ : ∃ rest, more = rest + 1 := ⟨more - 1, by omega⟩
    exact .object fun entry hentry => ih entry hentry (by omega)

end Json.Plain

namespace Draft

/-- A digit is no blank. -/
theorem not_gap_of_digit {c : Char} (hc : c.isDigit = true) : isGap c = false := by
  refine Bool.eq_false_iff.2 fun hgap => ?_
  simp only [isGap, Bool.or_eq_true, decide_eq_true_eq] at hgap
  rcases hgap with ((rfl | rfl) | rfl) | rfl <;> exact absurd hc (by decide)

end Draft

/-! ## Texts -/

namespace Json

/-- A string literal stands in front of what follows. -/
theorem suffix_string_chars (s : String) (rest : List Char) : rest <:+ stringChars s rest := by
  refine ⟨'"' :: s.toList.flatMap escapeChar ++ ['"'], ?_⟩
  simp [stringChars]

mutual

/-- A value stands in front of what follows. -/
theorem suffix_chars (value : Json) (rest : List Char) : rest <:+ chars rest value := by
  match value with
  | .null => exact List.suffix_append ['n', 'u', 'l', 'l'] rest
  | .bool true => exact List.suffix_append ['t', 'r', 'u', 'e'] rest
  | .bool false => exact List.suffix_append ['f', 'a', 'l', 's', 'e'] rest
  | .number value => exact List.suffix_append value.chars rest
  | .string value => exact suffix_string_chars value rest
  | .array [] => exact List.suffix_append ['[', ']'] rest
  | .array (item :: items) =>
    exact ((suffix_item_chars items rest).trans (suffix_chars item _)).trans
      (List.suffix_cons _ _)
  | .object [] => exact List.suffix_append ['{', '}'] rest
  | .object ((name, value) :: members) =>
    exact ((suffix_member_chars members rest).trans (suffix_chars value _)).trans
      ((List.suffix_cons _ _).trans ((suffix_string_chars name _).trans (List.suffix_cons _ _)))

/-- Items stand in front of what follows. -/
theorem suffix_item_chars (items : List Json) (rest : List Char) :
    rest <:+ itemChars rest items := by
  match items with
  | [] => exact List.suffix_cons _ _
  | item :: items =>
    exact ((suffix_item_chars items rest).trans (suffix_chars item _)).trans
      (List.suffix_cons _ _)

/-- Members stand in front of what follows. -/
theorem suffix_member_chars (members : List (String × Json)) (rest : List Char) :
    rest <:+ memberChars rest members := by
  match members with
  | [] => exact List.suffix_cons _ _
  | (name, value) :: members =>
    exact ((suffix_member_chars members rest).trans (suffix_chars value _)).trans
      ((List.suffix_cons _ _).trans ((suffix_string_chars name _).trans (List.suffix_cons _ _)))

end

/-- What follows an item is no number that goes on. -/
theorem delimited_item_chars (items : List Json) (rest : List Char) :
    Delimited (itemChars rest items) := by
  cases items with
  | nil =>
    rintro c ⟨⟩
    decide
  | cons item items =>
    rintro c ⟨⟩
    decide

/-- What follows a member is no number that goes on. -/
theorem delimited_member_chars (members : List (String × Json)) (rest : List Char) :
    Delimited (memberChars rest members) := by
  cases members with
  | nil =>
    rintro c ⟨⟩
    decide
  | cons entry members =>
    rintro c ⟨⟩
    decide

/-- The digits of a number start with a digit. -/
theorem head_digits (n : Nat) (rest : List Char) :
    ∃ c cs, Nat.toDigits 10 n ++ rest = c :: cs ∧ c.isDigit = true := by
  cases hdigits : Nat.toDigits 10 n with
  | nil => exact absurd hdigits Nat.toDigits_ne_nil
  | cons c cs =>
    have hmem : c ∈ Nat.toDigits 10 n := hdigits ▸ List.mem_cons_self
    exact ⟨c, cs ++ rest, rfl, Nat.isDigit_of_mem_toDigits (by decide) (by decide) hmem⟩

/-- A value starts neither with a blank nor with a closing bracket. -/
theorem head_chars (value : Json) (rest : List Char) :
    ∃ c cs, chars rest value = c :: cs ∧ Draft.isGap c = false ∧ c ≠ ']' := by
  cases value with
  | null => exact ⟨_, _, rfl, by decide, by decide⟩
  | bool value => cases value <;> exact ⟨_, _, rfl, by decide, by decide⟩
  | number value =>
    rw [chars]
    generalize hchars : value.chars = cs
    have hnumeral : Numeral cs := hchars ▸ value.numeral_chars
    cases hnumeral with
    | negative => exact ⟨_, _, rfl, by decide, by decide⟩
    | unsigned hmagnitude =>
      obtain ⟨c, cs, hchars, hdigit⟩ := hmagnitude.head rest
      refine ⟨c, cs, hchars, Draft.not_gap_of_digit hdigit, ?_⟩
      rintro rfl
      exact absurd hdigit (by decide)
  | string => exact ⟨_, _, rfl, by decide, by decide⟩
  | array items => cases items <;> exact ⟨_, _, rfl, by decide, by decide⟩
  | object members => cases members <;> exact ⟨_, _, rfl, by decide, by decide⟩

end Json

/-! ## Reading -/

namespace Draft

/-- Nothing is passed over in front of a character that is no blank. -/
theorem skip_gap_cons {c : Char} (hc : isGap c = false) (cs : List Char) :
    skipGap (c :: cs) = c :: cs := by
  simp [skipGap, hc]

/-- Wherever it stands, the text of the value is read as the draft, given fuel for its
characters. -/
def ReadsAs (levels : Nat) (value : Json) (draft : Draft) : Prop :=
  ∀ fuel rest, Delimited rest → 2 * (Json.chars rest value).length ≤ fuel →
    readValue fuel levels (Json.chars rest value) = (draft, some rest)

/-- Wherever it stands, the value is read back from its text, given fuel for its characters. -/
def Reads (levels : Nat) (value : Json) : Prop :=
  ∀ fuel rest, Delimited rest → 2 * (Json.chars rest value).length ≤ fuel →
    readValue fuel levels (Json.chars rest value) = (ofJson value, some rest)

/-- Numbers may be nested as deeply as one likes. -/
theorem within_number (levels : Nat) (value : Json.Number) :
    (Draft.number value).within levels = .number value := by
  cases levels <;> rfl

/-- A value that starts with a digit is a number. -/
theorem read_value_digit {c : Char} (hc : c.isDigit = true) (fuel levels : Nat) (cs : List Char) :
    readValue (fuel + 1) levels (c :: cs) =
      ((readNumber false (c :: cs)).1.within levels, (readNumber false (c :: cs)).2) := by
  rw [readValue, skip_gap_cons (not_gap_of_digit hc)]
  simp only
  split
  case h_9 heq =>
    cases heq
    rw [if_pos hc]
  all_goals
    next heq => cases heq <;> exact absurd hc (by decide)

/-- The value `null` is read back. -/
theorem reads_null (levels : Nat) : Reads levels .null := by
  rintro (_ | fuel) rest - hfuel
  · simp [Json.chars] at hfuel
  · cases levels <;> simp [Json.chars, readValue, skipGap, isGap, readWord, within, ofJson]

/-- Truth values are read back. -/
theorem reads_bool (levels : Nat) (value : Bool) : Reads levels (.bool value) := by
  rintro (_ | fuel) rest - hfuel
  · cases value <;> simp [Json.chars] at hfuel
  · cases value <;> cases levels <;>
      simp [Json.chars, readValue, skipGap, isGap, readWord, within, ofJson]

/-- Texts are read back. -/
theorem reads_string (levels : Nat) (value : String) : Reads levels (.string value) := by
  rintro (_ | fuel) rest - hfuel
  · simp [Json.chars, Json.stringChars] at hfuel
  · cases levels <;>
      simp [Json.chars, Json.stringChars, readValue, skipGap, isGap, read_string, within, ofJson]

/-- Whole numbers of at most 64 bits are read back. -/
theorem reads_whole (levels : Nat) {value : Int} (hmin : -9_223_372_036_854_775_808 ≤ value)
    (hmax : value < 18_446_744_073_709_551_616) : Reads levels (.number (.whole value)) := by
  intro fuel rest hrest hfuel
  -- the reader takes the sign off first, and refuses a negative zero
  rcases Int.lt_or_le value 0 with hneg | hnat
  · rw [Json.chars, Json.Number.chars_negative hneg] at hfuel ⊢
    obtain ⟨fuel, rfl⟩ : ∃ smaller, fuel = smaller + 1 :=
      ⟨fuel - 1, by rw [List.cons_append, List.length_cons] at hfuel; omega⟩
    have hread := read_negative (n := value.natAbs) (by omega) (by omega) hrest
    have habs : -(value.natAbs : Int) = value := by omega
    rw [habs] at hread
    rw [List.cons_append, readValue, skip_gap_cons (by decide)]
    simp only [hread, within_number, ofJson]
  · obtain ⟨n, rfl⟩ := Int.eq_ofNat_of_zero_le hnat
    have hread := read_natural (n := n) (by omega) hrest
    obtain ⟨c, cs, hchars, hdigit⟩ := Json.head_digits n rest
    rw [Json.chars, show (Json.Number.whole n).chars = _ from Json.Number.chars_natural n, hchars]
      at hfuel ⊢
    obtain ⟨fuel, rfl⟩ : ∃ smaller, fuel = smaller + 1 :=
      ⟨fuel - 1, by rw [List.length_cons] at hfuel; omega⟩
    rw [read_value_digit hdigit, ← hchars, hread, within_number]
    rfl

/-- Items are read one after the other. -/
theorem read_items {levels : Nat} {item : Json} {draft : Draft} {items : List Json}
    {drafts : List Draft} (hfirst : ReadsAs levels item draft)
    (hreads : List.Forall₂ (ReadsAs levels) items drafts) (fuel : Nat) (rest : List Char)
    (hfuel : 2 * (Json.chars (Json.itemChars rest items) item).length < fuel) :
    readItems fuel levels (Json.chars (Json.itemChars rest items) item) =
      ⟨draft :: drafts, none, some rest⟩ := by
  -- along the list, with the first item set apart: an item needs what follows it
  induction hreads generalizing item draft fuel with
  | nil =>
    obtain ⟨fuel, rfl⟩ : ∃ smaller, fuel = smaller + 1 := ⟨fuel - 1, by omega⟩
    rw [readItems, hfirst fuel _ (Json.delimited_item_chars [] rest) (by omega), Json.itemChars]
    simp only
    rw [skip_gap_cons (by decide)]
    rfl
  | @cons next nextDraft items drafts hnext _ ih =>
    obtain ⟨fuel, rfl⟩ : ∃ smaller, fuel = smaller + 1 := ⟨fuel - 1, by omega⟩
    have hlength := (Json.suffix_chars item (Json.itemChars rest (next :: items))).length_le
    rw [readItems, hfirst fuel _ (Json.delimited_item_chars (next :: items) rest) (by omega)]
    rw [Json.itemChars, List.length_cons] at hlength
    rw [Json.itemChars] at hfuel ⊢
    simp only
    rw [skip_gap_cons (by decide)]
    simp only
    rw [ih hnext fuel (by omega)]

/-- A list is read item by item, unless no more levels may be nested. -/
theorem reads_as_array {levels : Nat} {items : List Json} {drafts : List Draft}
    (hreads : List.Forall₂ (ReadsAs (levels - 1)) items drafts) :
    ReadsAs levels (.array items) ((Draft.array drafts none).within levels) := by
  rintro (_ | fuel) rest - hfuel
  · cases items <;> simp [Json.chars] at hfuel
  · cases hreads with
    | nil => simp [Json.chars, readValue, skipGap, isGap]
    | @cons item draft items drafts hfirst hreads =>
      obtain ⟨c, cs, hchars, hgap, hclose⟩ := item.head_chars (Json.itemChars rest items)
      rw [Json.chars, List.length_cons] at hfuel
      have hseries := read_items hfirst hreads fuel rest (by omega)
      rw [Json.chars, readValue, skip_gap_cons (by decide)]
      simp only
      rw [hchars] at hseries ⊢
      rw [skip_gap_cons hgap]
      simp [hclose, hseries]

/-- Items that are read back are read as their drafts. -/
theorem reads_items {levels : Nat} {items : List Json}
    (hreads : ∀ item ∈ items, Reads levels item) :
    List.Forall₂ (ReadsAs levels) items (ofItems items) := by
  induction items with
  | nil => exact .nil
  | cons item items ih =>
    exact .cons (hreads item List.mem_cons_self)
      (ih fun other hother => hreads other (List.mem_cons_of_mem _ hother))

/-- Lists are read back if their items are. -/
theorem reads_array {levels : Nat} {items : List Json}
    (hreads : ∀ item ∈ items, Reads levels item) : Reads (levels + 1) (.array items) := by
  have hitems : List.Forall₂ (ReadsAs (levels + 1 - 1)) items (ofItems items) := reads_items hreads
  exact reads_as_array hitems

/-- A member is read as a name and the draft of its value. -/
structure MemberReadsAs (levels : Nat) (entry : String × Json) (part : Option String × Draft) :
    Prop where
  /-- The name is read back. -/
  name : part.1 = some entry.1
  /-- The value is read as the draft. -/
  value : ReadsAs levels entry.2 part.2

/-- Members are read one after the other. -/
theorem read_members {levels : Nat} (name : String) {value : Json} {draft : Draft}
    {members : List (String × Json)} {parts : List (Option String × Draft)}
    (hfirst : ReadsAs levels value draft)
    (hreads : List.Forall₂ (MemberReadsAs levels) members parts) (fuel : Nat) (rest : List Char)
    (hfuel : 2 * (Json.stringChars name (':' :: Json.chars (Json.memberChars rest members)
      value)).length < fuel) :
    readMembers fuel levels (Json.stringChars name (':' :: Json.chars (Json.memberChars rest members)
      value)) = ⟨(some name, draft) :: parts, none, some rest⟩ := by
  have hscan (name : String) (tail : List Char) :
      StringScan.scan (name.toList.flatMap Json.escapeChar ++ '"' :: tail) =
        .closed (some name.toList) tail := StringScan.scan_string _ _
  have hname (name : String) (tail : List Char) :
      tail.length + 2 ≤ (Json.stringChars name tail).length := by
    simp [Json.stringChars]
  -- along the list, as for items
  induction hreads generalizing name value draft fuel with
  | nil =>
    obtain ⟨fuel, rfl⟩ : ∃ smaller, fuel = smaller + 1 := ⟨fuel - 1, by omega⟩
    have hlength := hname name (':' :: Json.chars (Json.memberChars rest []) value)
    rw [List.length_cons] at hlength
    have hvalue := hfirst fuel _ (Json.delimited_member_chars [] rest) (by omega)
    rw [Json.stringChars, readMembers, skip_gap_cons (by decide)]
    simp only [hscan]
    rw [skip_gap_cons (by decide)]
    simp only [hvalue]
    rw [Json.memberChars, skip_gap_cons (by decide)]
    simp
  | @cons entry part members parts hnext _ ih =>
    obtain ⟨next, nextValue⟩ := entry
    obtain ⟨nextName, nextDraft⟩ := part
    obtain ⟨rfl, hdraft⟩ : nextName = some next ∧ ReadsAs levels nextValue nextDraft :=
      ⟨hnext.name, hnext.value⟩
    obtain ⟨fuel, rfl⟩ : ∃ smaller, fuel = smaller + 1 := ⟨fuel - 1, by omega⟩
    have hlength := hname name
      (':' :: Json.chars (Json.memberChars rest ((next, nextValue) :: members)) value)
    have hsuffix := (Json.suffix_chars value
      (Json.memberChars rest ((next, nextValue) :: members))).length_le
    rw [List.length_cons] at hlength
    have hvalue := hfirst fuel _ (Json.delimited_member_chars ((next, nextValue) :: members) rest)
      (by omega)
    rw [Json.stringChars, readMembers, skip_gap_cons (by decide)]
    simp only [hscan]
    rw [skip_gap_cons (by decide)]
    simp only [hvalue]
    rw [Json.memberChars, List.length_cons] at hsuffix
    rw [Json.memberChars] at hlength hfuel ⊢
    rw [skip_gap_cons (by decide)]
    simp only
    rw [ih next hdraft fuel (by omega)]
    simp

/-- An object is read member by member, unless no more levels may be nested. -/
theorem reads_as_object {levels : Nat} {members : List (String × Json)}
    {parts : List (Option String × Draft)}
    (hreads : List.Forall₂ (MemberReadsAs (levels - 1)) members parts) :
    ReadsAs levels (.object members) ((Draft.object parts none).within levels) := by
  rintro (_ | fuel) rest - hfuel
  · cases members <;> simp [Json.chars] at hfuel
  · cases hreads with
    | nil => simp [Json.chars, readValue, skipGap, isGap]
    | @cons entry part members parts hfirst hreads =>
      obtain ⟨name, value⟩ := entry
      obtain ⟨partName, draft⟩ := part
      obtain ⟨rfl, hdraft⟩ : partName = some name ∧ ReadsAs (levels - 1) value draft :=
        ⟨hfirst.name, hfirst.value⟩
      rw [Json.chars, List.length_cons] at hfuel
      have hseries := read_members name hdraft hreads fuel rest (by omega)
      rw [Json.chars, readValue, skip_gap_cons (by decide)]
      simp only
      rw [Json.stringChars] at hseries ⊢
      rw [skip_gap_cons (by decide)]
      simp [hseries]

/-- Members that are read back are read as their drafts. -/
theorem reads_members {levels : Nat} {members : List (String × Json)}
    (hreads : ∀ entry ∈ members, Reads levels entry.2) :
    List.Forall₂ (MemberReadsAs levels) members (ofMembers members) := by
  induction members with
  | nil => exact .nil
  | cons entry members ih =>
    exact .cons ⟨rfl, hreads entry List.mem_cons_self⟩
      (ih fun other hother => hreads other (List.mem_cons_of_mem _ hother))

/-- Objects are read back if the values of their members are. -/
theorem reads_object {levels : Nat} {members : List (String × Json)}
    (hreads : ∀ entry ∈ members, Reads levels entry.2) : Reads (levels + 1) (.object members) := by
  have hmembers : List.Forall₂ (MemberReadsAs (levels + 1 - 1)) members (ofMembers members) :=
    reads_members hreads
  exact reads_as_object hmembers

/-- Every plain value is read back. -/
theorem reads_of_plain {levels : Nat} {value : Json} (h : Json.Plain levels value) :
    Reads levels value := by
  induction h with
  | null => exact reads_null _
  | bool => exact reads_bool _ _
  | whole hmin hmax => exact reads_whole _ hmin hmax
  | string => exact reads_string _ _
  | array _ ih => exact reads_array ih
  | object _ ih => exact reads_object ih

end Draft

namespace Document

/-- The text of a value denotes the draft that it is read as, and nothing follows it. -/
theorem of_text_reads_as {value : Json} {draft : Draft}
    (h : Draft.ReadsAs Draft.deepest value draft) :
    ofText value.render = ⟨draft, false⟩ := by
  have hread := h (2 * (Json.chars [] value).length + 2) [] delimited_nil (by omega)
  simp [ofText, Json.render, hread, Draft.skipGap]

/-- The text of a plain value that is not nested too deeply denotes this value, and nothing
follows it. -/
theorem of_text_render {value : Json} (h : Json.Plain Draft.deepest value) :
    ofText value.render = ⟨Draft.ofJson value, false⟩ :=
  of_text_reads_as (Draft.reads_of_plain h)

end Document

end FunctionOperator
