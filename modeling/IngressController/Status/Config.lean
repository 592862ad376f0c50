import IngressController.IngressClass
import IngressController.Text.Map

/-!
# What the status of the Ingresses is kept from

The settings of keeping the status, and the pod that the controller runs in. The other pods of the
controller are those of the same namespace that carry all labels of this one.
-/

set_option autoImplicit false

namespace IngressController.Status

open Object

/-- The settings of keeping the status. -/
structure Config where
  /-- The Service whose addresses are published; empty to publish those of the nodes. -/
  publishService : String := ""
  ingressClass : String := ""
  defaultIngressClass : String := IngressClass.builtInDefault
  /-- Whether the last pod withdraws the addresses when it stops. -/
  updateOnShutdown : Bool := true
  useNodeInternalIp : Bool := false
  /-- The milliseconds from one pass to the next. -/
  interval : Nat := 60000
  deriving DecidableEq

/-- Whether the controller manages an Ingress. -/
def Config.manages (c : Config) (ing : Ingress) : Bool :=
  IngressClass.manages c.ingressClass c.defaultIngressClass ing

/-- The pod that the controller runs in. -/
structure PodDetails where
  name : String
  namespaceName : String
  /-- The address of the node inside the cluster, empty if it is not known. -/
  nodeIp : String := ""
  labels : TextMap String := ∅
  deriving DecidableEq

/-- The selector for the pods that carry all labels of this one. -/
def PodDetails.selector (pod : PodDetails) : String :=
  ",".intercalate (pod.labels.entries.map fun (name, value) => name ++ "=" ++ value)

end IngressController.Status
