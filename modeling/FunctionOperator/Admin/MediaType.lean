/-!
# Media types

Which values of a content type header announce a JSON body: `application/json`, and every subtype
of `application` with the suffix `json`, in any case and with any well-formed parameters. Read
`MediaType.isJson` first.
-/

namespace FunctionOperator

/-- A media type without its parameters, in lower case. -/
structure MediaType where
  /-- The type. -/
  type : String
  /-- The subtype without its suffix. -/
  subtype : String
  /-- What follows the last plus sign. -/
  suffix : Option String

namespace MediaType

/-- The characters of tokens. -/
def isToken (c : Char) : Bool :=
  c.isAlphanum ||
    ['!', '#', '$', '%', '&', '\'', '*', '+', '-', '.', '^', '_', '`', '|', '~'].contains c

/-- The rest after a quoted value, which holds no controls and whose first character may even be a
quote. -/
def afterQuoted? (cs : List Char) : Option (List Char) :=
  match cs with
  | [] => none
  | first :: cs =>
    match cs.dropWhile fun c => ' ' ≤ c && c != '"' with
    | '"' :: rest =>
      if first < ' ' then none
      else
        match rest.dropWhile (· = ' ') with
        | [] => some []
        | ';' :: rest => some rest
        | _ => none
    | _ => none

/-- The rest after a value that is a token, which may be empty at the end only. -/
def afterToken? (cs : List Char) : Option (List Char) :=
  match cs.dropWhile isToken with
  | [] => some []
  | ';' :: rest => if cs.head? = some ';' then none else some rest
  | _ => none

/-- The rest after a parameter. -/
def afterParameter? (cs : List Char) : Option (List Char) :=
  match cs.dropWhile isToken with
  | '=' :: value =>
    if cs.head? = some '=' then none
    else
      match value with
      | '"' :: quoted => afterQuoted? quoted
      | value => afterToken? value
  | _ => none

/-- Whether a text is a list of parameters; `fuel` bounds their number. -/
def areParameters (cs : List Char) : Nat → Bool
  | 0 => false
  | fuel + 1 =>
    match cs.dropWhile (· = ' ') with
    | [] => true
    | cs =>
      match afterParameter? cs with
      | some rest => areParameters rest fuel
      | none => false

/-- Splits a subtype at its last plus sign; a plus sign at its start does not count. -/
def splitSuffix (subtype : List Char) : List Char × Option (List Char) :=
  let suffix := (subtype.reverse.takeWhile (· != '+')).reverse
  let kept := subtype.length - suffix.length - 1
  if suffix.length < subtype.length ∧ 0 < kept then (subtype.take kept, some suffix)
  else (subtype, none)

/-- The characters in lower case. -/
def lower (cs : List Char) : String := String.ofList (cs.map Char.toLower)

/-- Reads a media type; none if the text is not well formed. -/
def ofText? (text : String) : Option MediaType :=
  let cs := text.toList
  let type := cs.takeWhile isToken
  match cs.dropWhile isToken with
  | '/' :: rest =>
    if type.isEmpty then none
    else
      let subtype := rest.takeWhile isToken
      let (name, suffix) := splitSuffix subtype
      let value := ⟨lower type, lower name, suffix.map lower⟩
      match rest.dropWhile isToken with
      | [] => some value
      | ';' :: parameters =>
        if !subtype.isEmpty && areParameters parameters (parameters.length + 1) then some value
        else none
      | _ => none
  | _ => none

/-- Whether a content type announces JSON. -/
def isJson (text : String) : Bool :=
  text.toList.all (fun c => (32 ≤ c.toNat && c.toNat < 127) || c = '\t') &&
    (ofText? text).any fun value =>
      value.type = "application" && (value.subtype = "json" || value.suffix = some "json")

end MediaType

end FunctionOperator
