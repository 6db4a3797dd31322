import FunctionOperator.Admin.Handling
import FunctionOperator.Admin.MediaType
import FunctionOperator.Cache.Store
import FunctionOperator.Metrics
import FunctionOperator.Text.Blank
import FunctionOperator.Text.Percent
import FunctionOperator.Text.Quoted
import FunctionOperator.Text.Target

/-!
# The admin server

Clients list, read, deploy, delete and scale functions through the admin server. It reads from the
caches and writes through the cluster's API. Read `AdminServer.handle` first: the path chooses the
route, the route the admitted methods, and the method what is done.
-/

namespace FunctionOperator

/-- What the admin server sees. -/
structure AdminServer where
  /-- The namespace of the functions. -/
  space : String
  /-- The functions. -/
  functions : Store Function
  /-- The deployments. -/
  deployments : Store Deployment
  /-- The counters. -/
  metrics : Metrics := {}

/-- A request to the admin server. -/
structure AdminRequest where
  /-- The method. -/
  method : String
  /-- The path. -/
  path : String
  /-- The type of the body, if it is announced. -/
  contentType : Option String
  /-- The body. -/
  body : String

/-- What a path names. -/
inductive Route where
  /-- All functions. -/
  | functions
  /-- The function of an encoded name. -/
  | function (name : String)
  /-- The number of replicas of the function of an encoded name. -/
  | scale (name : String)
  /-- The operator. -/
  | info
  /-- The operator's health. -/
  | health
  /-- The operator's counters. -/
  | metrics
deriving DecidableEq

namespace Route

/-- The route of a path, whose segments have to match exactly. -/
def ofPath? (path : String) : Option Route :=
  match (path.toList.splitOn '/').map String.ofList with
  | ["", "system", "functions"] => some .functions
  | ["", "system", "function", name] => if name.isEmpty then none else some (.function name)
  | ["", "system", "scale-function", name] => if name.isEmpty then none else some (.scale name)
  | ["", "system", "info"] => some .info
  | ["", "healthz"] => some .health
  | ["", "metrics"] => some .metrics
  | _ => none

/-- The methods that a route admits. -/
def methods : Route → List String
  | .functions => ["GET", "HEAD", "POST", "PUT", "DELETE"]
  | .scale _ => ["POST"]
  | _ => ["GET", "HEAD"]

end Route

/-- What is handed to the handling of a request, or the answer if it cannot be had. -/
abbrev Extracted (α : Type) := Except Response α

namespace AdminRequest

/-- The greatest number of bytes of a body. -/
def mostBodyBytes : Nat := 2 * 1024 * 1024

/-- The body of a request, which has to be announced as JSON. -/
def jsonBody {α : Type} (request : AdminRequest) (codec : Codec α) : Extracted α :=
  if request.contentType.any MediaType.isJson then
    if mostBodyBytes < request.body.utf8ByteSize then
      .error (.text 413 "Failed to buffer the request body: length limit exceeded")
    else match (Document.ofText request.body).read codec.read with
    | .ok value => .ok value
    | .error .mistyped =>
      .error (.text 422 "Failed to deserialize the JSON body into the target type")
    | .error _ => .error (.text 400 "Failed to parse the request body as JSON")
  else .error (.text 415 "Expected request with `Content-Type: application/json`")

/-- Whether a text can be a method or the name of a header. -/
def isName (text : String) : Bool := !text.isEmpty && text.toList.all MediaType.isToken

/-- Whether a text can be the value of a header. -/
def isHeaderValue (text : String) : Bool :=
  text.toList.all fun c => c = '\t' || (32 ≤ c.toNat && c.toNat != 127)

/-- The value of a header, in whose name the case of letters does not matter. -/
def header? (name : String) (headers : List (String × String)) : Option String :=
  (headers.find? fun header => MediaType.lower header.1.toList = name).map (·.2)

/-- The request of a method, a target, headers and a body; none if they make no request. -/
def of? (method target : String) (headers : List (String × String)) (body : String) :
    Option AdminRequest := do
  let path ← Text.Target.path? target
  if !isName method || !headers.all fun header => isName header.1 && isHeaderValue header.2 then
    none
  return { method := method, path := path, contentType := header? "content-type" headers,
           body := body }

end AdminRequest

/-- The name in a path. -/
def pathName (encoded : String) : Extracted String :=
  match Text.percentDecoded? encoded with
  | some name => .ok name
  | none => .error (.text 400 "Invalid URL: Invalid UTF-8 in `name`")

/-- Goes on with what could be had. -/
def Extracted.handle {α : Type} (extracted : Extracted α) (rest : α → Handling) : Handling :=
  match extracted with
  | .ok value => rest value
  | .error response => .answered response

namespace AdminServer

/-- A number of replicas as it is told; a negative one counts as none. -/
def replicas (server : AdminServer) (name : String) : Nat × Nat :=
  match server.deployments.get? server.space name with
  | none => (0, 0)
  | some deployment =>
    ((deployment.specNumber? "replicas").getD 0 |>.toNat,
      (deployment.statusNumber? "availableReplicas").getD 0 |>.toNat)

/-- What is told about a function. -/
def statusOf (server : AdminServer) (function : Function) : FunctionStatus :=
  let name := function.metadata.displayName
  let (wanted, available) := server.replicas name
  { name := name
    image := function.spec.image
    space := server.space
    replicas := wanted
    availableReplicas := available
    labels := function.spec.labels
    annotations := function.spec.annotations }

/-- The functions of the server's namespace, by name. -/
def list (server : AdminServer) : List FunctionStatus :=
  let own := server.functions.objects.filter fun function =>
    function.metadata.space = some server.space
  (own.map server.statusOf).mergeSort fun first second => decide (first.name ≤ second.name)

/-- The function of a name. -/
def find? (server : AdminServer) (name : String) : Option FunctionStatus :=
  (server.functions.get? server.space name).map server.statusOf

/-- The answer to a wish for a function that is not there. -/
def notFound (name : String) : Response := .text 404 ("function " ++ name ++ " not found")

/-- The answer to a change, which needs a function to change. -/
def changed (name : String) (found : Bool) : Response := if found then .accepted else notFound name

/-- Creates a function, or replaces the one that is stored. -/
def apply (server : AdminServer) (request : DeploymentRequest) : Handling :=
  if (Text.trim request.service).isEmpty then .answered (.text 400 "service is required")
  else if (Text.trim request.image).isEmpty then .answered (.text 400 "image is required")
  else
    let function := request.toFunction server.space
    .reading server.space request.service fun
      | .error failure => .answered (.ofFailure failure)
      | .ok none => .attempt (.create server.space function) fun _ => .accepted
      | .ok (some stored) =>
        let version := stored.metadata.resourceVersion
        .attempt (.replace server.space
          { function with metadata := { function.metadata with resourceVersion := version } })
          fun _ => .accepted

/-- Deletes a function. -/
def delete (server : AdminServer) (request : DeletionRequest) : Handling :=
  let name := request.functionName
  if (Text.trim name).isEmpty then .answered (.text 400 "functionName is required")
  else .attempt (.delete server.space name) (changed name)

/-- Sets the number of replicas of a function, a number of 32 bits. -/
def scale (server : AdminServer) (name : String) (request : ScaleRequest) : Handling :=
  if 2_147_483_648 ≤ request.replicas then
    .answered (.text 400 ("replicas out of range: " ++ toString request.replicas))
  else .attempt (.scale server.space name request.replicas) (changed name)

/-- The answer to a request that only reads. -/
def read (server : AdminServer) : Route → Response
  | .functions => .json (.array (server.list.map FunctionStatus.codec.write))
  | .function encoded =>
    match pathName encoded with
    | .error response => response
    | .ok name =>
      match server.find? name with
      | some status => .json (FunctionStatus.codec.write status)
      | none => notFound name
  | .info => .json (ProviderInfo.codec.write ProviderInfo.current)
  | .health => .text 200 "OK"
  | .metrics =>
    { status := 200
      contentType := some "text/plain; version=0.0.4; charset=utf-8"
      body := server.metrics.exposition }
  | .scale _ => { status := 405 }

/-- The handling of a request with an admitted method. -/
def handleRoute (server : AdminServer) (request : AdminRequest) (route : Route) : Handling :=
  match route, request.method with
  | .scale encoded, _ =>
    (pathName encoded).handle fun name =>
      (request.jsonBody ScaleRequest.codec).handle (server.scale name)
  | .functions, "POST" => (request.jsonBody DeploymentRequest.codec).handle server.apply
  | .functions, "PUT" => (request.jsonBody DeploymentRequest.codec).handle server.apply
  | .functions, "DELETE" => (request.jsonBody DeletionRequest.codec).handle server.delete
  | route, "HEAD" => .answered (server.read route).headOnly
  | route, _ => .answered (server.read route)

/-- The handling of a request. -/
def handle (server : AdminServer) (request : AdminRequest) : Handling :=
  match Route.ofPath? request.path with
  | none => .answered { status := 404 }
  | some route =>
    if route.methods.contains request.method then server.handleRoute request route
    else .answered { status := 405, allow := some route.methods }

/-- The methods that are told to a request whose method its path does not admit. -/
def toldMethods? (request : AdminRequest) : Option (List String) :=
  ((Route.ofPath? request.path).map Route.methods).filter fun methods =>
    !methods.contains request.method

/-- The handling of a request within a number of seconds; without any time nothing is done. -/
def handleWithin (server : AdminServer) (seconds : Nat) (request : AdminRequest) : Handling :=
  if seconds = 0 then .answered { Response.late with allow := toldMethods? request }
  else server.handle request

/-- The text that shows the server's state in a diagnostic. -/
def diagnostic (server : AdminServer) : String :=
  "AppState \x7b namespace: " ++ Text.quoted server.space ++ ", functions: " ++
    server.functions.diagnostic ++ ", deployments: " ++ server.deployments.diagnostic ++
    ", .. \x7d"

end AdminServer

end FunctionOperator
