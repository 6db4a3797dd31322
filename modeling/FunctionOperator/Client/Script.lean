import FunctionOperator.Client.Request

/-!
# Scripted replies

A transport that gives the replies of a list, one for each request, and keeps the requests.
-/

namespace FunctionOperator

/-- A reply in a script. -/
inductive ScriptedReply where
  /-- The server answers. -/
  | answers (reply : Reply)
  /-- The server never answers. -/
  | hangs

/-- The replies that are left, and the requests that were sent. -/
structure Script where
  /-- The replies. -/
  replies : List ScriptedReply
  /-- The requests in order. -/
  sent : List ApiRequest := []

namespace Script

/-- What a request meets when the script is over. -/
def exhausted : ApiFailure := .unavailable "no response scripted"

/-- Answers a request with the next reply. A caller that waits for a reply that never comes is
told as much. -/
def transport : Transport Script := fun request script =>
  let script := { script with sent := script.sent ++ [request] }
  match script.replies with
  | [] => (.error exhausted, script)
  | .answers reply :: rest => (.ok reply, { script with replies := rest })
  | .hangs :: rest => (.error (.unavailable "no reply"), { script with replies := rest })

end Script

end FunctionOperator
