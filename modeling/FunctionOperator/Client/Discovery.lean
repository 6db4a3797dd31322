import FunctionOperator.Client.Collection

/-!
# Discovery

Which API for ingresses the cluster serves. Read `discover` first: the APIs are asked for in order,
and whatever is wrong with one makes the next one be asked for.
-/

namespace FunctionOperator

/-- The resources of an API, as far as they are looked at. -/
structure ResourceList where
  /-- The names of the resources. -/
  names : List String

namespace ResourceList

/-- The shape of a resource. -/
def resourceShape : Shape := .record (
  Shape.each ["group", "storageVersionHash", "version"] .text ++ [
  Shape.needed "kind" .text, Shape.needed "name" .text, Shape.needed "namespaced" .flag,
  Shape.needed "singularName" .text, Shape.needed "verbs" .texts,
  Shape.field "categories" .texts, Shape.field "shortNames" .texts])

/-- The name of a resource. -/
def nameOf (resource : Json) : String := ((resource.get? "name").bind Json.string?).getD ""

/-- The fields of the list. -/
def record : Record ResourceList where
  blank := ⟨[]⟩
  fields := [
    .fixed "apiVersion" "v1",
    .fixed "kind" "APIResourceList",
    .ignored "groupVersion" .string,
    .defaulted "resources" (resourceShape.codec.list.orElse [])
      (·.names.map fun name => .object [("name", .string name)])
      fun v r => { r with names := v.map nameOf }]

/-- The codec of the list. -/
def codec : Codec ResourceList := record.opened

end ResourceList

namespace IngressApi

/-- Asks for the resources of an API. -/
def resources (api : IngressApi) : ApiCall ResourceList where
  request := ApiRequest.to? "GET" (Collection.root api.apiVersion)
  receive reply := reply.decode ResourceList.codec.read

/-- The first of some APIs that serves ingresses. -/
def firstServed {σ : Type} (transport : Transport σ) :
    List IngressApi → σ → Except OperatorFailure IngressApi × σ
  | [], state => (.error (.discovery "no supported Ingress API version is served"), state)
  | api :: rest, state =>
    match api.resources.run transport state with
    | (.ok list, state) =>
      if list.names.contains plural then (.ok api, state) else firstServed transport rest state
    | (.error _, state) => firstServed transport rest state

/-- The API for ingresses that the cluster serves. -/
def discover {σ : Type} (transport : Transport σ) (state : σ) :
    Except OperatorFailure IngressApi × σ :=
  firstServed transport all state

end IngressApi

end FunctionOperator
