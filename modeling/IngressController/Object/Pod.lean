import IngressController.Object.Metadata

/-!
# Pods and the nodes they run on

A pod names the node it is scheduled on. A node lists its addresses with their kinds; the address
of a kind is the first one listed that is not empty.
-/

set_option autoImplicit false

namespace IngressController.Object

/-- What a pod asks for. -/
structure PodSpec where
  nodeName : Option String := none
  deriving DecidableEq

/-- A pod. -/
structure Pod where
  metadata : Metadata := {}
  spec : Option PodSpec := none
  deriving DecidableEq

/-- An address of a node. -/
structure NodeAddress where
  kind : String := ""
  address : String := ""
  deriving DecidableEq

/-- The status of a node. -/
structure NodeStatus where
  addresses : Option (List NodeAddress) := none
  deriving DecidableEq

/-- A node. -/
structure Node where
  metadata : Metadata := {}
  status : Option NodeStatus := none
  deriving DecidableEq

/-- The node a pod is scheduled on, empty if there is none. -/
def Pod.nodeText (pod : Pod) : String :=
  (pod.spec.bind (·.nodeName)).getD ""

/-- The kind of a node's addresses: inside the cluster or from outside. -/
def NodeAddress.kindText (internal : Bool) : String :=
  if internal then "InternalIP" else "ExternalIP"

/-- The first address of a node that is of the wanted kind and not empty. -/
def Node.address? (node : Node) (internal : Bool) : Option String := do
  let status ← node.status
  let addresses ← status.addresses
  let found ← addresses.find? fun a =>
    a.kind == NodeAddress.kindText internal && !a.address.isEmpty
  return found.address

/-! ### Reading -/

/-- Reads a pod. -/
def Pod.ofJson? (json : Json) : Option Pod := do
  let metadata ← Metadata.ofObject? "v1" "Pod" json
  let spec ← optional json "spec" fun spec => do
    let _ ← spec.obj?
    return { nodeName := ← optional spec "nodeName" Json.str? : PodSpec }
  return { metadata, spec }

/-- Reads an address of a node. -/
def NodeAddress.ofJson? (json : Json) : Option NodeAddress := do
  let _ ← json.obj?
  return {
    kind := ← withDefault json "type" "" Json.str?
    address := ← withDefault json "address" "" Json.str? }

/-- Reads a node. -/
def Node.ofJson? (json : Json) : Option Node := do
  let metadata ← Metadata.ofObject? "v1" "Node" json
  let status ← optional json "status" fun status => do
    let _ ← status.obj?
    return { addresses := ← optional status "addresses" (list NodeAddress.ofJson?) : NodeStatus }
  return { metadata, status }

end IngressController.Object
