import FunctionOperator.Admin.Body
import FunctionOperator.Failure
import FunctionOperator.Json.Printer

/-!
# Handlings of admin requests as programs

A request is handled by calls to the cluster's API for functions, one after the other; each answer
decides how it goes on. `Handling` is the tree of the possible courses, and `Handling.run` lets an
API answer. A call that is never answered ends the request when its time is over.
-/

namespace FunctionOperator

/-- An answer to an admin request. -/
structure Response where
  /-- The status. -/
  status : Nat
  /-- The type of the body, if it has one. -/
  contentType : Option String := none
  /-- The body. -/
  body : String := ""
  /-- The methods that the path knows, if the request's method is not one of them. -/
  allow : Option (List String) := none
deriving DecidableEq

namespace Response

/-- The answer to a request that took too long. -/
def late : Response := { status := 408 }

/-- The answer to a wish that was accepted. -/
def accepted : Response := { status := 202 }

/-- An answer in plain text. -/
def text (status : Nat) (message : String) : Response where
  status := status
  contentType := some "text/plain; charset=utf-8"
  body := message

/-- A document. -/
def json (document : Json) : Response where
  status := 200
  contentType := some "application/json"
  body := document.render

/-- The answer to a request whose call to the API failed. -/
def ofFailure (failure : ApiFailure) : Response := text 500 failure.message

/-- The answer without its body. -/
def headOnly (response : Response) : Response := { response with body := "" }

end Response

/-- A change of the stored functions. -/
inductive FunctionWrite where
  /-- A new function. -/
  | create (space : String) (function : Function)
  /-- A function in the place of the stored one. -/
  | replace (space : String) (function : Function)
  /-- The end of a function. -/
  | delete (space name : String)
  /-- Another number of replicas. -/
  | scale (space name : String) (replicas : Int)

namespace FunctionWrite

/-- The namespace of a change. -/
def space : FunctionWrite → String
  | .create space _ => space
  | .replace space _ => space
  | .delete space _ => space
  | .scale space _ _ => space

/-- The name of the changed function. -/
def name : FunctionWrite → String
  | .create _ function => function.metadata.displayName
  | .replace _ function => function.metadata.displayName
  | .delete _ name => name
  | .scale _ name _ => name

end FunctionWrite

/-- The courses of the handling of a request. -/
inductive Handling where
  /-- The request is answered. -/
  | answered (response : Response)
  /-- The stored function of a name is asked for. -/
  | reading (space name : String)
    (resume : Except ApiFailure (Option Function) → Handling)
  /-- A change is asked for; the answer tells whether there was a function to change. -/
  | writing (write : FunctionWrite) (resume : Except ApiFailure Bool → Handling)

/-- How an API with a state answers; nothing stands for a call that is never answered. -/
structure FunctionApi (σ : Type) where
  /-- Answers the wish for a stored function. -/
  read : String → String → σ → Option (Except ApiFailure (Option Function)) × σ
  /-- Answers the wish for a change. -/
  write : FunctionWrite → σ → Option (Except ApiFailure Bool) × σ

namespace Handling

/-- Asks for a change; if it fails the request fails. -/
def attempt (write : FunctionWrite) (rest : Bool → Response) : Handling :=
  .writing write fun
    | .ok found => .answered (rest found)
    | .error failure => .answered (.ofFailure failure)

/-- Lets an API answer the calls of a request. -/
def run {σ : Type} (api : FunctionApi σ) : Handling → σ → Response × σ
  | .answered response, state => (response, state)
  | .reading space name resume, state =>
    match api.read space name state with
    | (some answer, state) => run api (resume answer) state
    | (none, state) => (.late, state)
  | .writing write resume, state =>
    match api.write write state with
    | (some answer, state) => run api (resume answer) state
    | (none, state) => (.late, state)

end Handling

end FunctionOperator
