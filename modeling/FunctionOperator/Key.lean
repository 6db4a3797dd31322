import FunctionOperator.Failure
import FunctionOperator.Resource.Metadata

/-!
# Queue keys

The text by which an object waits in a queue: its namespace and its name with a slash between
them, or the name alone for an object without a namespace.
-/

namespace FunctionOperator.Key

/-- The key of a name in a namespace; an empty namespace is none. -/
def of (space : Option String) (name : String) : String :=
  match space with
  | none => name
  | some space => if space.isEmpty then name else space ++ "/" ++ name

/-- The key of an object. -/
def ofMetadata (metadata : Metadata) : String :=
  of metadata.space metadata.displayName

/-- The parts of a text before and after its first slash. -/
def cut (cs : List Char) : Option (List Char × List Char) :=
  match cs.dropWhile (· != '/') with
  | _ :: rest => some (cs.takeWhile (· != '/'), rest)
  | [] => none

/-- The namespace and the name of a key. The namespace is empty if the key has no slash; a key
with an empty name or with a slash in its name is none. -/
def split (key : String) : Except SyncFailure (String × String) :=
  let (space, name) := (cut key.toList).getD ([], key.toList)
  if name.isEmpty || name.contains '/' then .error (.invalidKey key)
  else .ok (String.ofList space, String.ofList name)

end FunctionOperator.Key
