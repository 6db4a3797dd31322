import FunctionOperator.Definition.Kinds
import FunctionOperator.Operator

/-!
# The commands

`crdgen` prints the definitions of all kinds. `ingress-operator`, which is also what runs without
a word, starts the operator with the settings of the environment. The commands are built without a
network, so the operator reaches no server: it refuses settings that are not admitted, tells that
no API is served, or waits for caches that never fill.
-/

namespace FunctionOperator.Command

/-- Prints the definitions of all kinds. -/
def printDefinitions : IO UInt32 := do
  match definitionStream with
  | .ok stream =>
    IO.print stream
    return 0
  | .error message =>
    IO.eprintln ("Error: " ++ message)
    return 1

/-- The variables of the environment that the settings look at. -/
def environment : IO Settings.Variables := do
  let mut found : List (String × String) := []
  for name in Settings.names do
    if let some value ← IO.getEnv name then
      found := (name, value) :: found
  return fun name => found.lookup name

/-- Whether the environment tells a way to a cluster. -/
def configured : IO Bool := do
  return (← IO.getEnv "KUBECONFIG").isSome || (← IO.getEnv "KUBERNETES_SERVICE_HOST").isSome

/-- Lets a started operator turn forever. -/
partial def keepTurning (operator : Operator) : IO UInt32 := do
  match operator.turn? Transport.unreachable ⟨0, 0⟩ () with
  | none => return 1
  | some (operator, ()) =>
    IO.sleep 1000
    keepTurning operator

/-- Starts the operator. -/
def runOperator : IO UInt32 := do
  match (Operator.start? (← environment) (← configured) .unreachable ()).1 with
  | .error failure =>
    IO.eprintln ("Error: " ++ failure.diagnostic)
    return 1
  | .ok operator => keepTurning operator

end FunctionOperator.Command

/-- Runs the command that the arguments name. -/
def main (args : List String) : IO UInt32 :=
  match args with
  | ["crdgen"] => FunctionOperator.Command.printDefinitions
  | _ => FunctionOperator.Command.runOperator
