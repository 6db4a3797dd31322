import FunctionOperator.Text.Blank
import FunctionOperator.Text.Quoted

/-!
# The APIs that serve ingresses

Clusters of different ages serve ingresses under different API versions. One of them is chosen
when the operator starts, and every ingress is then written in its form.
-/

namespace FunctionOperator

/-- An API version that serves ingresses. -/
inductive IngressApi where
  /-- The current API. -/
  | networkingV1
  /-- Its last preview. -/
  | networkingV1beta1
  /-- The API before it got a group of its own. -/
  | extensionsV1beta1
deriving DecidableEq

namespace IngressApi

/-- The APIs in the order of preference, newest first. -/
def all : List IngressApi := [networkingV1, networkingV1beta1, extensionsV1beta1]

/-- The API group. -/
def group : IngressApi → String
  | networkingV1 => "networking.k8s.io"
  | networkingV1beta1 => "networking.k8s.io"
  | extensionsV1beta1 => "extensions"

/-- The version within the group. -/
def version : IngressApi → String
  | networkingV1 => "v1"
  | networkingV1beta1 => "v1beta1"
  | extensionsV1beta1 => "v1beta1"

/-- The group and the version. -/
def apiVersion (api : IngressApi) : String := api.group ++ "/" ++ api.version

/-- The kind of the objects. -/
def kind : String := "Ingress"

/-- The name of the collection. -/
def plural : String := "ingresses"

/-- The API of a group and version, with blanks around it. -/
def ofApiVersion? (apiVersion : String) : Option IngressApi :=
  all.find? fun api => api.apiVersion == Text.trim apiVersion

/-- The text that shows the resource of an API in a diagnostic. -/
def diagnostic (api : IngressApi) : String :=
  "ApiResource \x7b group: " ++ Text.quoted api.group ++ ", version: " ++
    Text.quoted api.version ++ ", api_version: " ++ Text.quoted api.apiVersion ++ ", kind: " ++
    Text.quoted kind ++ ", plural: " ++ Text.quoted plural ++ " \x7d"

end IngressApi

end FunctionOperator
