/-!
# Request targets

The path that a request target names. A target is a path with an optional query and fragment, an
asterisk, an authority alone, or an absolute address with a scheme. Read `Target.path?` first.
-/

namespace FunctionOperator.Text.Target

/-- The characters of a path; what stands for characters of other scripts is admitted. -/
def isPathChar (c : Char) : Bool :=
  let n := c.toNat
  n = 0x21 || n = 0x22 || (0x24 ≤ n && n ≤ 0x3b) || n = 0x3d || (0x40 ≤ n && n ≤ 0x5f) ||
    (0x61 ≤ n && n ≤ 0x7e) || 0x80 ≤ n

/-- The characters of a query. -/
def isQueryChar (c : Char) : Bool :=
  let n := c.toNat
  n = 0x21 || (0x24 ≤ n && n ≤ 0x3b) || n = 0x3d || (0x3f ≤ n && n ≤ 0x7e) || 0x80 ≤ n

/-- The path and the query of a text that starts with a path: what follows a question mark is a
query, and what follows a number sign is not looked at. -/
def leadingParts? (cs : List Char) : Option (List Char × List Char) :=
  let whole := cs.takeWhile (· != '#')
  let path := whole.takeWhile (· != '?')
  let query := (whole.dropWhile (· != '?')).drop 1
  if path.all isPathChar && query.all isQueryChar then
    some (if path.isEmpty then ['/'] else path, query)
  else none

/-- The path of a text that starts with a path. -/
def leadingPath? (cs : List Char) : Option (List Char) := (leadingParts? cs).map (·.1)

/-- The characters of an authority. -/
def isAuthorityChar (c : Char) : Bool :=
  c.isAlphanum ||
    ['!', '$', '&', '\'', '(', ')', '*', '+', ',', '-', '.', ':', ';', '=', '@', '[', ']', '_', '~',
      '%'].contains c

/-- What has been seen of an authority. -/
structure AuthorityScan where
  /-- The number of colons since the last user part or address. -/
  colons : Nat := 0
  /-- Whether an address was opened. -/
  opened : Bool := false
  /-- Whether an address was closed. -/
  closed : Bool := false
  /-- Whether a percent sign occurred since the last user part or address. -/
  percent : Bool := false
  /-- Whether the last character ends a user part. -/
  atEnd : Bool := false

/-- Looks at the next character of an authority. -/
def AuthorityScan.step (scan : AuthorityScan) (c : Char) : Option AuthorityScan :=
  let scan := { scan with atEnd := false }
  if c = ':' then if 8 ≤ scan.colons then none else some { scan with colons := scan.colons + 1 }
  else if c = '[' then
    if scan.percent || scan.opened then none else some { scan with opened := true }
  else if c = ']' then
    if !scan.opened || scan.closed then none
    else some { scan with closed := true, colons := 0, percent := false }
  else if c = '@' then some { scan with colons := 0, percent := false, atEnd := true }
  else if c = '%' then some { scan with percent := true }
  else if isAuthorityChar c then some scan
  else none

/-- Whether a text is an authority, possibly empty. -/
def isAuthority (cs : List Char) : Bool :=
  match cs.foldlM AuthorityScan.step {} with
  | none => false
  | some scan =>
    scan.opened == scan.closed && scan.colons ≤ 1 && !scan.atEnd && !scan.percent

/-- The characters of a scheme. -/
def isSchemeChar (c : Char) : Bool := c.isAlphanum || ['+', '-', '.'].contains c

/-- The greatest length of a scheme. -/
def longestScheme : Nat := 64

/-- What follows the scheme of an absolute address. -/
def afterScheme? (cs : List Char) : Option (List Char) :=
  match cs.dropWhile isSchemeChar with
  | ':' :: '/' :: '/' :: rest =>
    if (cs.takeWhile isSchemeChar).length ≤ longestScheme then some rest else none
  | _ => none

/-- The greatest number of bytes of a target. -/
def mostBytes : Nat := 65534

/-- Whether a character ends an authority. -/
def endsAuthority (c : Char) : Bool := c = '/' || c = '?' || c = '#'

/-- The path of a request target; none if the text is none. -/
def path? (text : String) : Option String :=
  if mostBytes < text.utf8ByteSize then none else
  match text.toList with
  | [] => none
  | ['*'] => some "*"
  | '/' :: rest => (leadingPath? ('/' :: rest)).map String.ofList
  | cs =>
    match afterScheme? cs with
    | none => if isAuthority cs then some "" else none
    | some rest =>
      let authority := rest.takeWhile fun c => !endsAuthority c
      if authority.isEmpty || !isAuthority authority then none
      else (leadingPath? (rest.dropWhile fun c => !endsAuthority c)).map String.ofList

end FunctionOperator.Text.Target
