import FunctionOperator.Client.Collection
import FunctionOperator.Sync.Program

/-!
# The writes of syncs as calls
-/

namespace FunctionOperator.Write

/-- The call of a write, with the API for ingresses. -/
def apiCall (api : IngressApi) : Write → ApiCall Unit
  | .createIngress space object => (api.collection.create space object).map fun _ => ()
  | .replaceIngress space object =>
    (api.collection.replace space object.metadata.displayName object).map fun _ => ()
  | .createDeployment space object =>
    (Deployment.kind.collection.create space object).map fun _ => ()
  | .replaceDeployment space object =>
    (Deployment.kind.collection.replace space object.metadata.displayName object).map fun _ => ()
  | .createService space object =>
    (Service.kind.collection.create space object).map fun _ => ()

end FunctionOperator.Write
