import FunctionOperator.Admin.Handling

/-!
# A shelf of functions

An API for functions that keeps what it is given and answers as it is told to. Read
`FunctionShelf.write` first.
-/

namespace FunctionOperator

/-- The calls of the API for functions. -/
inductive FunctionCall where
  /-- Get a function. -/
  | get
  /-- Create a function. -/
  | create
  /-- Replace a function. -/
  | replace
  /-- Delete a function. -/
  | delete
  /-- Set the number of replicas. -/
  | scale
deriving DecidableEq

/-- The call of a change. -/
def FunctionWrite.call : FunctionWrite → FunctionCall
  | .create .. => .create
  | .replace .. => .replace
  | .delete .. => .delete
  | .scale .. => .scale

/-- What goes wrong with a call. -/
inductive CallFault where
  /-- It fails. -/
  | fails (failure : ApiFailure)
  /-- It is never answered. -/
  | hangs

/-- A call that was made. -/
structure CallRecord where
  /-- The call. -/
  call : FunctionCall
  /-- The namespace. -/
  space : String
  /-- The name. -/
  name : String

/-- Stored functions, and how calls are answered. -/
structure FunctionShelf where
  /-- The functions, by namespace and name joined with a slash. -/
  stored : SortedMap Function := ∅
  /-- What goes wrong. -/
  faults : List (FunctionCall × CallFault) := []
  /-- The calls in order. -/
  calls : List CallRecord := []

namespace FunctionShelf

/-- The place of a function. -/
def place (space name : String) : String := space ++ "/" ++ name

/-- Answers a call with a fault if there is one, and otherwise by an action. -/
def answer {α : Type} (shelf : FunctionShelf) (call : CallRecord)
    (act : FunctionShelf → α × FunctionShelf) : Option (Except ApiFailure α) × FunctionShelf :=
  let shelf := { shelf with calls := shelf.calls ++ [call] }
  match shelf.faults.lookup call.call with
  | some (.fails failure) => (some (.error failure), shelf)
  | some .hangs => (none, shelf)
  | none =>
    let (value, shelf) := act shelf
    (some (.ok value), shelf)

/-- Carries a change out, and tells whether there was a function to change. -/
def carryOut (write : FunctionWrite) (shelf : FunctionShelf) : Bool × FunctionShelf :=
  let place := place write.space write.name
  let old := shelf.stored.get? place
  match write with
  | .create _ function | .replace _ function =>
    (true, { shelf with stored := shelf.stored.insert place function })
  | .delete .. => (old.isSome, { shelf with stored := shelf.stored.erase place })
  | .scale _ _ replicas =>
    match old with
    | none => (false, shelf)
    | some function =>
      let scaled := { function with spec := { function.spec with replicas := some replicas } }
      (true, { shelf with stored := shelf.stored.insert place scaled })

/-- The shelf as an API. -/
def api : FunctionApi FunctionShelf where
  read space name shelf :=
    shelf.answer ⟨.get, space, name⟩ fun shelf => (shelf.stored.get? (place space name), shelf)
  write change shelf := shelf.answer ⟨change.call, change.space, change.name⟩ (carryOut change)

end FunctionShelf

end FunctionOperator
