import FunctionOperator.Json.Embedded
import FunctionOperator.Rendering.Ingress
import FunctionOperator.Resource.IngressApi

/-!
# Ingress objects

An ingress as the cluster stores it: typed metadata, and everything else as a document, because
its form depends on the API. `Ingress.build` renders a new one and `Ingress.converge` brings a
stored one up to what is wanted; both take their rules and certificates from the same functions.
-/

namespace FunctionOperator

/-- A stored ingress. -/
structure Ingress where
  /-- The API version and the kind, if they are given. -/
  types : Option (String × String)
  /-- The metadata. -/
  metadata : Metadata
  /-- Everything else. -/
  data : Json

namespace Ingress

/-- Reads an object's members in order: the metadata, which may occur once, and the others. -/
def gather : List (Option String × Draft) → Option Metadata →
    Except Cause (Option Metadata × List (String × Draft))
  | [], metadata => .ok (metadata, [])
  | (none, _) :: _, _ => .error .malformed
  | (some name, draft) :: members, metadata =>
    if name = "metadata" then
      if metadata.isSome then .error .mistyped
      else do gather members (some (← Metadata.codec.read draft))
    else do
      draft.inspect
      let (metadata, others) ← gather members metadata
      return (metadata, (name, draft) :: others)

/-- Takes the API version and the kind out of members. They are taken one by one: the first one
that occurs again or is no text is dropped and ends it, and then there are none. One of them
alone is dropped, too. -/
def takeTypes : List (String × Draft) → Option String → Option String →
    Option (String × String) × List (String × Draft)
  | [], version, kind => (version.bind fun version => kind.map (version, ·), [])
  | (name, draft) :: members, version, kind =>
    if name = "apiVersion" then
      match version, draft with
      | none, .string text => takeTypes members (some text) kind
      | _, _ => (none, members)
    else if name = "kind" then
      match kind, draft with
      | none, .string text => takeTypes members version (some text)
      | _, _ => (none, members)
    else
      let (types, others) := takeTypes members version kind
      (types, (name, draft) :: others)

/-- The value that members make up; the value of a text stands for all of them. -/
def dataOf : List (String × Draft) → Except Cause Json
  | [] => .ok (.object [])
  | (name, draft) :: members =>
    if name = Json.textMark then draft.embedded Json.parse
    else (Draft.object (((name, draft) :: members).map fun entry => (some entry.1, entry.2))
      none).toJson

/-- Reads an ingress. -/
def read : Draft → Except Cause Ingress
  | .object members stop => do
    let (metadata, others) ← gather members none
    Draft.checkRead stop
    let (types, others) := takeTypes others none none
    return ⟨types, metadata.getD {}, ← dataOf others⟩
  | draft => draft.unwanted

/-- The codec of ingresses. -/
def codec : Codec Ingress where
  read := read
  write ingress :=
    let types := match ingress.types with
      | some (apiVersion, kind) => [("apiVersion", Json.string apiVersion), ("kind", .string kind)]
      | none => []
    .object (types ++ ("metadata", Metadata.codec.write ingress.metadata) ::
      (ingress.data.members?.getD []))

/-! ## Rendering -/

/-- The path of a route, in the form of an API. -/
def pathJson (api : IngressApi) (rule : RoutingRule) : Json :=
  match api with
  | .networkingV1 => Json.ofMembers [
      ("path", .string rule.path),
      ("pathType", .string "ImplementationSpecific"),
      ("backend", Json.ofMembers [("service", Json.ofMembers [
        ("name", .string rule.service),
        ("port", Json.ofMembers [("number", .ofInt rule.port)])])])]
  | _ => Json.ofMembers [
      ("path", .string rule.path),
      ("backend", Json.ofMembers [
        ("serviceName", .string rule.service), ("servicePort", .ofInt rule.port)])]

/-- The routes, in the form of an API. -/
def rulesJson (api : IngressApi) (rules : List RoutingRule) : Json :=
  .array (rules.map fun rule => Json.ofMembers [
    ("host", .string rule.host),
    ("http", Json.ofMembers [("paths", .array [pathJson api rule])])])

/-- The certificates, which have the same form in every API. -/
def tlsJson (tls : List TlsEntry) : Json :=
  .array (tls.map fun entry => Json.ofMembers [
    ("hosts", .array (entry.hosts.map .string)), ("secretName", .string entry.secretName)])

/-- Puts the wanted rules and certificates into a spec; a value that is no object is replaced. -/
def convergeSpec (api : IngressApi) (desired : DesiredIngress) (spec : Json) : Json :=
  let spec := (match spec with
    | .object members => Json.object members
    | _ => .object []).set "rules" (rulesJson api desired.rules)
  if desired.tls.isEmpty then spec.remove "tls" else spec.set "tls" (tlsJson desired.tls)

/-- A new ingress as it is wanted. -/
def build (api : IngressApi) (desired : DesiredIngress) : Ingress where
  types := some (api.apiVersion, IngressApi.kind)
  metadata := {
    annotations := some desired.annotations
    name := some desired.name
    space := some desired.space
    ownerReferences := if desired.owners.isEmpty then none else some desired.owners }
  data := .object [("spec", convergeSpec api desired (.object []))]

/-- The annotations of a stored ingress as they are wanted: keys of others survive, and keys that
only some specs lead to are dropped unless they are wanted. -/
def convergeAnnotations (existing : Option TextMap) (desired : TextMap) : TextMap :=
  ((existing.getD ∅).filter fun key _ => !IngressKey.conditional.contains key).overlay
    desired

/-- A stored ingress brought up to what is wanted. Rules and certificates are replaced, annotations
merged, and the controller set; all else is kept. -/
def converge (api : IngressApi) (existing : Ingress) (desired : DesiredIngress) : Ingress :=
  let annotations := convergeAnnotations existing.metadata.annotations desired.annotations
  let data := match existing.data with
    | .object members => Json.object members
    | _ => .object []
  { existing with
    metadata := ({ existing.metadata with annotations := some annotations }).setController
      desired.owners
    data := data.set "spec" (convergeSpec api desired ((data.get? "spec").getD .null)) }

end Ingress

end FunctionOperator
