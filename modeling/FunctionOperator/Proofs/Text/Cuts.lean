import FunctionOperator.Text.Blank
import Mathlib.Data.List.DropRight
import Mathlib.Data.List.TakeWhile

/-!
# Where texts are cut

What is left of a text that is trimmed at both ends, that loses its tail, or that is cut at its
first mark. Read `Trims` and `LongestStart` first, which say without a look at the cutting what has to be
left: the part between the outer blanks, and the longest start that does not end in a class of
characters. `trims_iff` and `longest_start_iff` say that this is what is left, and nothing else is.
-/

namespace FunctionOperator.Text

/-! ## The tail -/

/-- The longest start of a list that does not end in a class of characters. The empty start ends in
nothing. -/
structure LongestStart (tail : List Char) (whole start : List Char) : Prop where
  /-- It is a start. -/
  isStart : start <+: whole
  /-- It does not end in the class. -/
  outside : ∀ c ∈ start.getLast?, c ∉ tail
  /-- No longer start does so. -/
  longest : ∀ other, other <+: whole → (∀ c ∈ other.getLast?, c ∉ tail) →
    other.length ≤ start.length

/-- There is one longest start. -/
theorem LongestStart.unique {tail whole first second : List Char}
    (hfirst : LongestStart tail whole first) (hsecond : LongestStart tail whole second) :
    first = second := by
  have hle : first.length ≤ second.length :=
    hsecond.longest first hfirst.isStart hfirst.outside
  have hge : second.length ≤ first.length :=
    hfirst.longest second hsecond.isStart hsecond.outside
  exact (List.prefix_of_prefix_length_le hfirst.isStart hsecond.isStart hle).eq_of_length
    (Nat.le_antisymm hle hge)

variable {drop : Char → Bool} {tail : List Char}

/-- A last character is dropped if it is in the class. -/
theorem drop_tail_concat (drop : Char → Bool) (cs : List Char) (c : Char) :
    dropTail drop (cs ++ [c]) = if drop c = true then dropTail drop cs else cs ++ [c] :=
  List.rdropWhile_concat drop cs c

/-- A start without a tail of the class is no longer than what is left. -/
theorem length_le_drop_tail {whole other : List Char} (hother : other <+: whole)
    (houtside : ∀ c ∈ other.getLast?, drop c = false) :
    other.length ≤ (dropTail drop whole).length := by
  induction whole using List.reverseRecOn with
  | nil => exact hother.length_le
  | append_singleton whole c ih =>
    rw [drop_tail_concat]
    rcases List.prefix_concat_iff.1 hother with rfl | hstart
    · have hc : drop c = false := houtside c (by simp)
      rw [if_neg (by simp [hc])]
    · split
      · exact ih hstart
      · exact hother.length_le

/-- Dropping the tail leaves the longest start, and nothing else is it. -/
theorem longest_start_iff (hdrop : ∀ c, drop c = true ↔ c ∈ tail) {whole start : List Char} :
    LongestStart tail whole start ↔ dropTail drop whole = start := by
  have hkept (c : Char) : drop c = false ↔ c ∉ tail := by
    rw [← hdrop, Bool.not_eq_true]
  have hleft : LongestStart tail whole (dropTail drop whole) := {
    isStart := dropTail_isPrefix drop whole
    outside := fun c hc => (hkept c).1 (dropTail_getLast hc)
    longest := fun other hother houtside =>
      length_le_drop_tail hother fun c hc => (hkept c).2 (houtside c hc) }
  exact ⟨hleft.unique, fun hstart => hstart ▸ hleft⟩

/-! ## Both ends -/

/-- What is left of a text without its outer blanks. -/
structure Trims (raw core : String) : Prop where
  /-- There are only blanks around it. -/
  between : ∃ before behind, raw.toList = before ++ core.toList ++ behind ∧
    (∀ c ∈ before, isBlank c = true) ∧ ∀ c ∈ behind, isBlank c = true
  /-- It does not start with a blank. -/
  first : ∀ c ∈ core.toList.head?, isBlank c = false
  /-- It does not end with a blank. -/
  last : ∀ c ∈ core.toList.getLast?, isBlank c = false

/-- Characters of the class at the end are dropped. -/
theorem drop_tail_append {cs behind : List Char} (h : ∀ c ∈ behind, drop c = true) :
    dropTail drop (cs ++ behind) = dropTail drop cs := by
  rw [dropTail, List.reverse_append, List.dropWhile_append_of_pos (by simpa using h), dropTail]

/-- A list that does not end in the class has nothing to drop. -/
theorem drop_tail_eq_self {cs : List Char} (h : ∀ c ∈ cs.getLast?, drop c = false) :
    dropTail drop cs = cs := by
  refine List.rdropWhile_eq_self_iff.2 fun hne => ?_
  simp [h _ (List.getLast?_eq_getLast_of_ne_nil hne)]

/-- What is trimmed is what is left without the outer blanks. -/
theorem trims_trim (raw : String) : Trims raw (trim raw) := by
  have hcore : (trim raw).toList = dropTail isBlank (raw.toList.dropWhile isBlank) :=
    String.toList_ofList
  refine ⟨⟨raw.toList.takeWhile isBlank, (raw.toList.dropWhile isBlank).rtakeWhile isBlank, ?_,
    fun c => List.mem_takeWhile_imp, fun c => List.mem_rtakeWhile_imp⟩, fun c hc => ?_,
    fun c hc => dropTail_getLast (hcore ▸ hc)⟩
  · have hbehind : dropTail isBlank (raw.toList.dropWhile isBlank) ++
        (raw.toList.dropWhile isBlank).rtakeWhile isBlank = raw.toList.dropWhile isBlank :=
      List.rdropWhile_append_rtakeWhile
    rw [hcore, List.append_assoc, hbehind, List.takeWhile_append_dropWhile]
  · have hhead : (raw.toList.dropWhile isBlank).head? = some c := by
      obtain ⟨behind, hbehind⟩ := dropTail_isPrefix isBlank (raw.toList.dropWhile isBlank)
      rw [← hbehind, List.head?_append, ← hcore, hc, Option.some_or]
    have hnot := List.head?_dropWhile_not isBlank raw.toList
    rw [hhead] at hnot
    exact hnot

/-- A text is trimmed to what is left of it, and to nothing else. -/
theorem trims_iff {raw core : String} : Trims raw core ↔ trim raw = core := by
  refine ⟨?_, fun h => h ▸ trims_trim raw⟩
  rintro ⟨⟨before, behind, hraw, hbefore, hbehind⟩, hfirst, hlast⟩
  refine String.toList_inj.1 (String.toList_ofList.trans ?_)
  rw [trimChars, hraw, List.append_assoc, List.dropWhile_append_of_pos hbefore]
  cases hcore : core.toList with
  | nil =>
    rw [List.nil_append, List.dropWhile_eq_nil_iff.2 hbehind]
    rfl
  | cons c rest =>
    have hc : isBlank c = false := hfirst c (by rw [hcore]; rfl)
    rw [List.cons_append, List.dropWhile_cons_of_neg (by simp [hc]), ← List.cons_append, ← hcore,
      drop_tail_append hbehind, drop_tail_eq_self hlast]

/-! ## The first mark -/

variable {mark : Char} {cs before behind : List Char}

/-- A text that has a mark is cut at its first one. -/
theorem cut_at_iff :
    (cs.takeWhile (· != mark) = before ∧ cs.dropWhile (· != mark) = mark :: behind) ↔
      cs = before ++ mark :: behind ∧ mark ∉ before := by
  constructor
  · rintro ⟨rfl, hbehind⟩
    refine ⟨?_, fun hmem => ?_⟩
    · rw [← hbehind, List.takeWhile_append_dropWhile]
    · simpa using List.mem_takeWhile_imp hmem
  · rintro ⟨rfl, hmark⟩
    have hall : ∀ c ∈ before, (c != mark) = true := by
      rintro c hc
      simp only [bne_iff_ne]
      rintro rfl
      exact hmark hc
    rw [List.takeWhile_append_of_pos hall, List.dropWhile_append_of_pos hall]
    simp

/-- What a text is cut into starts with the mark, if the text has it. -/
theorem drop_to_mark (mark : Char) (cs : List Char) :
    cs.dropWhile (· != mark) = [] ∧ mark ∉ cs ∨
      ∃ behind, cs.dropWhile (· != mark) = mark :: behind := by
  cases hdrop : cs.dropWhile (· != mark) with
  | nil =>
    refine .inl ⟨rfl, fun hmem => ?_⟩
    simpa using List.dropWhile_eq_nil_iff.1 hdrop mark hmem
  | cons c behind =>
    have hnot := List.head?_dropWhile_not (· != mark) cs
    rw [hdrop] at hnot
    obtain rfl : c = mark := by simpa using hnot
    exact .inr ⟨behind, rfl⟩

end FunctionOperator.Text
