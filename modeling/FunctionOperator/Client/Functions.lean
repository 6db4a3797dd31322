import FunctionOperator.Admin.Handling
import FunctionOperator.Client.Deletion

/-!
# The API for functions and for syncs

The calls by which the admin server and the syncs read and write. A refusal with the status 404
means that there was no function to delete or to scale.
-/

namespace FunctionOperator

namespace ApiCall

/-- Whether there was an object: not if the call was refused with the status 404. -/
def found {α : Type} (call : ApiCall α) : ApiCall Bool where
  request := call.request
  receive reply :=
    match call.receive reply with
    | .ok _ => .ok true
    | .error (.refused refusal) =>
      if refusal.code = 404 then .ok false else .error (.refused refusal)
    | .error failure => .error failure

end ApiCall

namespace Function

/-- The functions in the API. -/
def collection : Collection Function := kind.collection

/-- The document that sets a number of replicas. -/
def scalePatch (replicas : Int) : Json :=
  .object [("spec", .object [("replicas", .ofInt replicas)])]

/-- Deletes a function, and tells whether there was one. -/
def delete (space name : String) : ApiCall Bool := (collection.delete space name).found

/-- Sets the number of replicas of a function, and tells whether there was one. -/
def scale (space name : String) (replicas : Int) : ApiCall Bool :=
  (collection.merge space name (scalePatch replicas)).found

end Function

namespace FunctionWrite

/-- The call of a change. -/
def apiCall : FunctionWrite → ApiCall Bool
  | .create space function => (Function.collection.create space function).map fun _ => true
  | .replace space function =>
    (Function.collection.replace space function.metadata.displayName function).map fun _ => true
  | .delete space name => Function.delete space name
  | .scale space name replicas => Function.scale space name replicas

end FunctionWrite

/-- The API for functions behind a transport. -/
def FunctionApi.over {σ : Type} (transport : Transport σ) : FunctionApi σ where
  read space name state :=
    let (answer, state) := (Function.collection.get space name).run transport state
    (some answer, state)
  write change state :=
    let (answer, state) := change.apiCall.run transport state
    (some answer, state)

end FunctionOperator
