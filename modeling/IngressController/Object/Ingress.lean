import IngressController.Object.Metadata

/-!
# Ingresses and load balancer status

An Ingress asks for a class in its specification and carries, in its status, the load balancer
entries under which it can be reached. Of an entry the address is an IP or a host name; its ports
are only carried along.
-/

set_option autoImplicit false

namespace IngressController.Object

/-- The state of one port of a load balancer entry. -/
structure PortStatus where
  port : Int
  protocol : String
  error : Option String := none
  deriving DecidableEq

/-- One address of a load balancer. -/
structure Entry where
  ip : Option String := none
  hostname : Option String := none
  ports : Option (List PortStatus) := none
  deriving DecidableEq

/-- The addresses of a load balancer. -/
structure LoadBalancer where
  entries : Option (List Entry) := none
  deriving DecidableEq

/-- The status of an object that a load balancer stands in front of. -/
structure Status where
  loadBalancer : Option LoadBalancer := none
  deriving DecidableEq

/-- What an Ingress asks for. -/
structure IngressSpec where
  className : Option String := none
  deriving DecidableEq

/-- An Ingress. -/
structure Ingress where
  metadata : Metadata := {}
  spec : Option IngressSpec := none
  status : Option Status := none
  deriving DecidableEq

/-! ### The published addresses -/

/-- The load balancer entries of a status, if it has any list of them. -/
def Status.entries? (status : Option Status) : Option (List Entry) :=
  status.bind fun s => s.loadBalancer.bind (·.entries)

/-- A status with its list of load balancer entries replaced. -/
def Status.withEntries (status : Option Status) (entries : List Entry) : Status :=
  let status := status.getD {}
  let loadBalancer := status.loadBalancer.getD {}
  { status with loadBalancer := some { loadBalancer with entries := some entries } }

/-- The addresses published on an Ingress. -/
def Ingress.published (ing : Ingress) : List Entry :=
  (Status.entries? ing.status).getD []

/-- The Ingress with other addresses published. -/
def Ingress.publish (ing : Ingress) (entries : List Entry) : Ingress :=
  { ing with status := some (Status.withEntries ing.status entries) }

/-! ### Reading and writing -/

/-- Reads the state of a port. -/
def PortStatus.ofJson? (json : Json) : Option PortStatus := do
  let _ ← json.obj?
  return {
    port := ← withDefault json "port" 0 int32
    protocol := ← withDefault json "protocol" "" Json.str?
    error := ← optional json "error" Json.str? }

/-- Reads an entry. -/
def Entry.ofJson? (json : Json) : Option Entry := do
  let _ ← json.obj?
  return {
    ip := ← optional json "ip" Json.str?
    hostname := ← optional json "hostname" Json.str?
    ports := ← optional json "ports" (list PortStatus.ofJson?) }

/-- Reads a status. -/
def Status.ofJson? (json : Json) : Option Status := do
  let _ ← json.obj?
  let loadBalancer ← optional json "loadBalancer" fun lb => do
    let _ ← lb.obj?
    return { entries := ← optional lb "ingress" (list Entry.ofJson?) : LoadBalancer }
  return { loadBalancer }

/-- Reads an Ingress. -/
def Ingress.ofJson? (json : Json) : Option Ingress := do
  let metadata ← Metadata.ofObject? "networking.k8s.io/v1" "Ingress" json
  let spec ← optional json "spec" fun spec => do
    let _ ← spec.obj?
    return { className := ← optional spec "ingressClassName" Json.str? : IngressSpec }
  let status ← optional json "status" Status.ofJson?
  return { metadata, spec, status }

/-- Writes the state of a port. -/
def PortStatus.toJson (p : PortStatus) : Json :=
  Json.ofMembers [("error", p.error.map .str), ("port", some (.int p.port)),
    ("protocol", some (.str p.protocol))]

/-- Writes an entry without its absent members. -/
def Entry.toJson (e : Entry) : Json :=
  Json.ofMembers [("ip", e.ip.map .str), ("hostname", e.hostname.map .str),
    ("ports", e.ports.map fun ports => .arr (ports.map PortStatus.toJson))]

/-- Writes a status without its absent members. -/
def Status.toJson (s : Status) : Json :=
  let lists (lb : LoadBalancer) : Json :=
    Json.ofMembers [("ingress", lb.entries.map fun es => .arr (es.map Entry.toJson))]
  Json.ofMembers [("loadBalancer", s.loadBalancer.map lists)]

end IngressController.Object
