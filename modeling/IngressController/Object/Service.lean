import IngressController.Object.Ingress

/-!
# Services and their endpoints

A Service declares ports. A port has a number, maybe a name, and a target: the port of the pods
behind it, by number or by name. The Endpoints of a Service list, in subsets, the addresses of
those pods and the ports they serve; only ready addresses are served from.
-/

set_option autoImplicit false

namespace IngressController.Object

/-- A port of a pod, by number or by name. -/
inductive TargetPort where
  | number (port : Int)
  | name (port : String)
  deriving DecidableEq

/-- A port of a Service. -/
structure ServicePort where
  name : Option String := none
  port : Int := 0
  target : Option TargetPort := none
  deriving DecidableEq

/-- What a Service asks for. -/
structure ServiceSpec where
  ports : Option (List ServicePort) := none
  externalIps : Option (List String) := none
  deriving DecidableEq

/-- A Service. -/
structure Service where
  metadata : Metadata := {}
  spec : Option ServiceSpec := none
  status : Option Status := none
  deriving DecidableEq

/-- A pod that an address belongs to. -/
structure TargetRef where
  namespaceName : Option String := none
  name : Option String := none
  deriving DecidableEq

/-- An address of a subset. -/
structure EndpointAddress where
  ip : String := ""
  targetRef : Option TargetRef := none
  deriving DecidableEq

/-- A port of a subset. -/
structure EndpointPort where
  name : Option String := none
  port : Int := 0
  deriving DecidableEq

/-- Addresses that serve the same ports. -/
structure Subset where
  addresses : Option (List EndpointAddress) := none
  notReadyAddresses : Option (List EndpointAddress) := none
  ports : Option (List EndpointPort) := none
  deriving DecidableEq

/-- The endpoints of a Service. -/
structure Endpoints where
  metadata : Metadata := {}
  subsets : Option (List Subset) := none
  deriving DecidableEq

/-! ### Reading -/

/-- Reads a target port. -/
def TargetPort.ofJson? (json : Json) : Option TargetPort :=
  match json with
  | .str text => some (.name text)
  | json => (int32 json).map .number

/-- Reads a port of a Service. -/
def ServicePort.ofJson? (json : Json) : Option ServicePort := do
  let _ ← json.obj?
  return {
    name := ← optional json "name" Json.str?
    port := ← withDefault json "port" 0 int32
    target := ← optional json "targetPort" TargetPort.ofJson? }

/-- Reads a Service. -/
def Service.ofJson? (json : Json) : Option Service := do
  let metadata ← Metadata.ofObject? "v1" "Service" json
  let spec ← optional json "spec" fun spec => do
    let _ ← spec.obj?
    return {
      ports := ← optional spec "ports" (list ServicePort.ofJson?)
      externalIps := ← optional spec "externalIPs" (list Json.str?) : ServiceSpec }
  let status ← optional json "status" Status.ofJson?
  return { metadata, spec, status }

/-- Reads an address of a subset. -/
def EndpointAddress.ofJson? (json : Json) : Option EndpointAddress := do
  let _ ← json.obj?
  let ip ← withDefault json "ip" "" Json.str?
  let targetRef ← optional json "targetRef" fun ref => do
    let _ ← ref.obj?
    return {
      namespaceName := ← optional ref "namespace" Json.str?
      name := ← optional ref "name" Json.str? : TargetRef }
  return { ip, targetRef }

/-- Reads a port of a subset. -/
def EndpointPort.ofJson? (json : Json) : Option EndpointPort := do
  let _ ← json.obj?
  return {
    name := ← optional json "name" Json.str?
    port := ← withDefault json "port" 0 int32 }

/-- Reads a subset. -/
def Subset.ofJson? (json : Json) : Option Subset := do
  let _ ← json.obj?
  return {
    addresses := ← optional json "addresses" (list EndpointAddress.ofJson?)
    notReadyAddresses := ← optional json "notReadyAddresses" (list EndpointAddress.ofJson?)
    ports := ← optional json "ports" (list EndpointPort.ofJson?) }

/-- Reads endpoints. -/
def Endpoints.ofJson? (json : Json) : Option Endpoints := do
  let metadata ← Metadata.ofObject? "v1" "Endpoints" json
  let subsets ← optional json "subsets" (list Subset.ofJson?)
  return { metadata, subsets }

end IngressController.Object
