import FunctionOperator.Client.Request
import FunctionOperator.Resource.Function
import FunctionOperator.Resource.FunctionIngress
import FunctionOperator.Resource.Ingress
import FunctionOperator.Resource.Workload

/-!
# Collections of the API

Where the objects of a type live in the API, and the calls that every collection knows. A new
object is sent to its collection, every other call names the object, whose name must not be empty.
-/

namespace FunctionOperator

/-- The objects of a type in the API. -/
structure Collection (α : Type) where
  /-- The API group and version. -/
  apiVersion : String
  /-- The name of the collection. -/
  plural : String
  /-- The codec of the objects. -/
  codec : Codec α

namespace Collection

variable {α : Type}

/-- The start of the paths of an API; the oldest API has no group. -/
def root (apiVersion : String) : String :=
  if apiVersion.contains '/' then "/apis/" ++ apiVersion else "/api/" ++ apiVersion

/-- The path of a collection in a namespace. -/
def path (collection : Collection α) (space : String) : String :=
  root collection.apiVersion ++ "/namespaces/" ++ space ++ "/" ++ collection.plural

/-- The path of an object; none without a name. -/
def objectPath? (collection : Collection α) (space name : String) : Option String :=
  if name.isEmpty then none else some (collection.path space ++ "/" ++ name)

/-- Creates an object. -/
def create (collection : Collection α) (space : String) (object : α) : ApiCall α where
  request := ApiRequest.to? "POST" (collection.path space)
    (some (ApiRequest.jsonType, collection.codec.write object))
  receive reply := reply.decode collection.codec.read

/-- Replaces the object of a name. -/
def replace (collection : Collection α) (space name : String) (object : α) : ApiCall α where
  request := (collection.objectPath? space name).bind fun path =>
    ApiRequest.to? "PUT" path (some (ApiRequest.jsonType, collection.codec.write object))
  receive reply := reply.decode collection.codec.read

/-- Asks for the object of a name; only a refusal for the reason that it is not found means that
there is none. -/
def get (collection : Collection α) (space name : String) : ApiCall (Option α) where
  request := (collection.objectPath? space name).bind fun path => ApiRequest.to? "GET" path
  receive reply :=
    match reply.decode collection.codec.read with
    | .ok object => .ok (some object)
    | .error (.refused refusal) =>
      if refusal.reason = "NotFound" then .ok none else .error (.refused refusal)
    | .error failure => .error failure

/-- Merges a document into the object of a name. -/
def merge (collection : Collection α) (space name : String) (document : Json) : ApiCall α where
  request := (collection.objectPath? space name).bind fun path =>
    ApiRequest.to? "PATCH" path (some (ApiRequest.mergeType, document))
  receive reply := reply.decode collection.codec.read

end Collection

namespace PrimaryKind

/-- The collection of a kind of declared objects. -/
def collection {σ : Type} (kind : PrimaryKind σ) : Collection (Primary σ) :=
  ⟨kind.apiVersion, kind.plural, kind.codec⟩

end PrimaryKind

namespace DerivedKind

/-- The collection of a kind of derived objects. -/
def collection {α : Type} (kind : DerivedKind α) : Collection (Derived α) :=
  ⟨kind.apiVersion, kind.plural, kind.codec⟩

end DerivedKind

namespace IngressApi

/-- The collection of ingresses. -/
def collection (api : IngressApi) : Collection Ingress :=
  ⟨api.apiVersion, plural, Ingress.codec⟩

end IngressApi

end FunctionOperator
