import IngressController.Object.Data
import IngressController.Object.Pod
import IngressController.Object.Service

/-!
# Objects of any kind

The kinds of objects that are watched or called for, with their names in the singular and in the
plural.
-/

set_option autoImplicit false

namespace IngressController.Object

/-- A kind of objects. -/
inductive Kind where
  | ingress
  | service
  | endpoints
  | secret
  | configMap
  | pod
  | node
  | lease
  deriving DecidableEq, Repr

namespace Kind

/-- Every kind. -/
def all : List Kind :=
  [ingress, service, endpoints, secret, configMap, pod, node, lease]

/-- The kinds that are watched. -/
def watched : List Kind :=
  [ingress, service, endpoints, secret, configMap]

/-- The name of a kind. -/
def name : Kind → String
  | ingress => "ingress"
  | service => "service"
  | endpoints => "endpoints"
  | secret => "secret"
  | configMap => "configmap"
  | pod => "pod"
  | node => "node"
  | lease => "lease"

/-- The name of many objects of a kind, as it stands in paths. -/
def plural : Kind → String
  | ingress => "ingresses"
  | service => "services"
  | endpoints => "endpoints"
  | secret => "secrets"
  | configMap => "configmaps"
  | pod => "pods"
  | node => "nodes"
  | lease => "leases"

/-- The kind with a name. -/
def ofName? (text : String) : Option Kind :=
  all.find? fun k => k.name == text

end Kind

/-- An object of any kind but a lease. -/
inductive AnyObject where
  | ingress (o : Ingress)
  | service (o : Service)
  | endpoints (o : Endpoints)
  | secret (o : Secret)
  | configMap (o : ConfigMap)
  | pod (o : Pod)
  | node (o : Node)

/-- Reads an object of a kind. -/
def AnyObject.ofJson? (kind : Kind) (json : Json) : Option AnyObject :=
  match kind with
  | .ingress => (Ingress.ofJson? json).map ingress
  | .service => (Service.ofJson? json).map service
  | .endpoints => (Endpoints.ofJson? json).map endpoints
  | .secret => (Secret.ofJson? json).map secret
  | .configMap => (ConfigMap.ofJson? json).map configMap
  | .pod => (Pod.ofJson? json).map pod
  | .node => (Node.ofJson? json).map node
  | .lease => none

end IngressController.Object
