import IngressController.Cluster.Call
import IngressController.Cluster.Selector
import IngressController.Object.Kind
import IngressController.Text.Map

/-!
# A cluster in memory

Answers calls from the objects that it holds. Every call is recorded, and the calls of a given list
fail, whether they are given by their name alone or with what they are about. Writing a status
stores the Ingress as it is given.
-/

set_option autoImplicit false

namespace IngressController.Cluster

open Object

/-- The name of a kind of calls. -/
def Call.name : Call → String
  | getPod .. => "get_pod"
  | listPods .. => "list_pods"
  | getNode _ => "get_node"
  | getService .. => "get_service"
  | getIngress .. => "get_ingress"
  | publish _ => "update_ingress_status"

/-- What a call is about. -/
def Call.subject : Call → String
  | getPod namespaceName name => namespaceName ++ "/" ++ name
  | listPods namespaceName selector => namespaceName ++ " " ++ selector
  | getNode name => name
  | getService namespaceName name => namespaceName ++ "/" ++ name
  | getIngress namespaceName name => namespaceName ++ "/" ++ name
  | publish ing => ing.metadata.key

/-- A call as a text. -/
def Call.text (c : Call) : String :=
  c.name ++ " " ++ c.subject

/-- A cluster in memory. -/
structure Memory where
  pods : List Pod := []
  nodes : TextMap Node := ∅
  services : TextMap Service := ∅
  ingresses : TextMap Ingress := ∅
  /-- The calls that fail, by name or text. -/
  failing : List String := []
  /-- The code that reading a pod is refused with, if it is. -/
  podError : Option Int := none
  /-- The texts of the calls so far. -/
  calls : List String := []
  /-- The Ingresses written so far. -/
  writes : List Ingress := []

namespace Memory

/-- Puts a pod in the place of the one with its key, or at the end. -/
def replacePod (pod : Pod) : List Pod → List Pod
  | [] => [pod]
  | old :: rest =>
    if old.metadata.key = pod.metadata.key then pod :: rest else old :: replacePod pod rest

/-- The cluster with an object; kinds that no call is about are left out. -/
def put (m : Memory) : AnyObject → Memory
  | .pod o => { m with pods := replacePod o m.pods }
  | .node o => { m with nodes := m.nodes.insert o.metadata.nameText o }
  | .service o => { m with services := m.services.insert o.metadata.key o }
  | .ingress o => { m with ingresses := m.ingresses.insert o.metadata.key o }
  | _ => m

/-- The cluster without the object of a kind that has a key; the key of a node is its name. -/
def delete (m : Memory) (kind : Kind) (key : String) : Memory :=
  match kind with
  | .pod => { m with pods := m.pods.filter (·.metadata.key != key) }
  | .node => { m with nodes := m.nodes.erase key }
  | .service => { m with services := m.services.erase key }
  | .ingress => { m with ingresses := m.ingresses.erase key }
  | _ => m

/-- Whether a call is among those that fail. -/
def fails (m : Memory) (c : Call) : Bool :=
  m.failing.contains c.name || m.failing.contains c.text

/-- The value of an option, or the failure to find it. -/
def found {α : Type} (what key : String) : Option α → Except Failure α
  | some a => .ok a
  | none => .error (.noAnswer (what ++ " " ++ key ++ " not found"))

/-- The outcome of a call that does not fail as such, and the cluster after it. -/
def serve (m : Memory) : (c : Call) → c.Outcome × Memory
  | .getPod namespaceName name =>
    (match m.podError with
      | some code => .error (.refused code)
      | none =>
        match m.pods.find? (·.metadata.isAt namespaceName name) with
        | some pod => .ok pod
        | none => .error (.refused 404), m)
  | .listPods namespaceName selector =>
    (.ok (m.pods.filter fun pod =>
      pod.metadata.isIn namespaceName && matchesSelector selector pod.metadata), m)
  | .getNode name => (found "node" name (m.nodes.get? name), m)
  | .getService namespaceName name =>
    let key := namespaceName ++ "/" ++ name
    (found "service" key (m.services.get? key), m)
  | .getIngress namespaceName name =>
    let key := namespaceName ++ "/" ++ name
    (found "ingress" key (m.ingresses.get? key), m)
  | .publish ing => (.ok (), { m.put (.ingress ing) with writes := m.writes ++ [ing] })

/-- The outcome of a call, and the cluster after it. -/
def answer (m : Memory) (c : Call) : c.Outcome × Memory :=
  let m := { m with calls := m.calls ++ [c.text] }
  if m.fails c then (.error (.noAnswer (c.text ++ " failed")), m) else m.serve c

end Memory

end IngressController.Cluster
