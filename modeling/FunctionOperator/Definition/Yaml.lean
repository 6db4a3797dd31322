import FunctionOperator.Json.Printer

/-!
# Documents for people

The form of documents in which nesting is shown by indentation. Read `Json.yamlLines` first: a
member of an object stands on a line of its own, followed by the lines of its value with two more
blanks; the items of a list stand at the depth of the list's name, each after a dash.
-/

namespace FunctionOperator.Json

/-- The characters with which a text cannot start outside of quotes. -/
def startsIndicator (c : Char) : Bool :=
  ['-', '?', ':', ',', '[', ']', '\x7b', '\x7d', '#', '&', '*', '!', '|', '>', '\'', '"', '%', '@',
    '`', ' ', '='].contains c

/-- Whether a text has a part that ends a text outside of quotes. -/
def hasMark : List Char → Bool
  | ':' :: ' ' :: _ => true
  | ' ' :: '#' :: _ => true
  | [':'] => true
  | [' '] => true
  | [] => false
  | _ :: rest => hasMark rest

/-- The texts that would be read as something else. -/
def otherWords : List String :=
  ["null", "Null", "NULL", "~", "true", "True", "TRUE", "false", "False", "FALSE"]

/-- Whether a text would be read as a number. -/
def looksNumeric (cs : List Char) : Bool :=
  cs.all fun c => c.isDigit || ['+', '-', '.', 'e', 'E', 'x', 'o', '_'].contains c

/-- Whether a text needs no quotes. -/
def isPlain (text : String) : Bool :=
  match text.toList with
  | [] => false
  | c :: rest => !startsIndicator c && !hasMark (c :: rest) && !otherWords.contains text &&
      !looksNumeric (c :: rest)

/-- A text in single quotes, in which a quote is written twice. -/
def singleQuoted (text : String) : String :=
  String.ofList ('\'' :: (text.toList.flatMap fun c => if c = '\'' then ['\'', '\''] else [c]) ++
    ['\''])

/-- A value as it follows a name or a dash: the rest of that line, and further lines. A list after
a name is not indented, and a list or an object after a dash starts on the dash's line. -/
inductive Layout where
  /-- A value on one line. -/
  | inline (text : String)
  /-- A text of several lines. -/
  | lines (lines : List String)
  /-- The lines of an object. -/
  | members (lines : List String)
  /-- The lines of a list. -/
  | items (lines : List String)

/-- A line with two more blanks. -/
def indented (line : String) : String := "  " ++ line

/-- The lines of a named value. -/
def named (name : String) : Layout → List String
  | .inline text => [name ++ ": " ++ text]
  | .lines lines => (name ++ ": |-") :: lines.map indented
  | .members lines => (name ++ ":") :: lines.map indented
  | .items lines => (name ++ ":") :: lines

/-- The lines of an item of a list. -/
def dashed : Layout → List String
  | .inline text => ["- " ++ text]
  | .lines lines => "- |-" :: lines.map indented
  | .members lines | .items lines =>
    match lines with
    | [] => ["-"]
    | first :: rest => ("- " ++ first) :: rest.map indented

/-- The layout of a text. -/
def textLayout (text : String) : Layout :=
  if text.contains '\n' then .lines (text.splitOn "\n")
  else .inline (if isPlain text then text else singleQuoted text)

mutual

/-- The layout of a value. -/
def layout : Json → Layout
  | .string text => textLayout text
  | .object [] => .inline "\x7b\x7d"
  | .object (member :: members) => .members (memberLines (member :: members))
  | .array [] => .inline "[]"
  | .array (item :: items) => .items (itemLines (item :: items))
  | value => .inline value.render

/-- The lines of the members of an object. -/
def memberLines : List (String × Json) → List String
  | [] => []
  | (name, value) :: members => named name (layout value) ++ memberLines members

/-- The lines of the items of a list. -/
def itemLines : List Json → List String
  | [] => []
  | item :: items => dashed (layout item) ++ itemLines items

end

/-- The lines of a document. -/
def yamlLines (document : Json) : List String :=
  match layout document with
  | .inline text => [text]
  | .lines lines => "|-" :: lines.map indented
  | .members lines => lines
  | .items lines => lines

/-- The text of a document. -/
def toYaml (document : Json) : String := String.join (document.yamlLines.map (· ++ "\n"))

end FunctionOperator.Json
