/-!
# Blank characters

The characters that count as white space when a setting, a label or a constraint is trimmed,
and trimming itself. `dropTail_getLast` says that what is left after a tail was
dropped does not end in the dropped class.
-/

namespace FunctionOperator.Text

/-- The blank characters are those with the Unicode property `White_Space`. -/
def isBlank (c : Char) : Bool :=
  let n := c.toNat
  (9 ≤ n && n ≤ 13) || n == 0x20 || n == 0x85 || n == 0xA0 || n == 0x1680 ||
    (0x2000 ≤ n && n ≤ 0x200A) || n == 0x2028 || n == 0x2029 || n == 0x202F || n == 0x205F ||
    n == 0x3000

/-- Removes the characters of a class from the end of a list. -/
def dropTail (drop : Char → Bool) (cs : List Char) : List Char :=
  (cs.reverse.dropWhile drop).reverse

/-- Removes blanks from both ends of a list of characters. -/
def trimChars (cs : List Char) : List Char :=
  dropTail isBlank (cs.dropWhile isBlank)

/-- Removes blanks from both ends of a text. -/
def trim (s : String) : String :=
  String.ofList (trimChars s.toList)

/-- A trimmed tail ends outside the class. -/
theorem dropTail_getLast {drop : Char → Bool} {cs : List Char} {c : Char}
    (h : (dropTail drop cs).getLast? = some c) : drop c = false := by
  simp only [dropTail, List.getLast?_reverse] at h
  have := List.head?_dropWhile_not drop cs.reverse
  rw [h] at this
  simpa using this

/-- Dropping a tail keeps an initial segment. -/
theorem dropTail_isPrefix (drop : Char → Bool) (cs : List Char) : dropTail drop cs <+: cs := by
  have := List.reverse_prefix.2 (List.dropWhile_suffix (l := cs.reverse) drop)
  rwa [List.reverse_reverse] at this

end FunctionOperator.Text
