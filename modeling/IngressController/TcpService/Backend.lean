import IngressController.Object.Service
import IngressController.Text.Numeral
import IngressController.TcpService.Directive

/-!
# Backends of TCP services

A backend listens on a public port and passes on to the endpoints of a Service. The port of the
Service is found by its name or by the text of its target first and by its number only if that
fails; the endpoints are the ready addresses of every subset that serves a port of the same name.
-/

set_option autoImplicit false

namespace IngressController.TcpService

open Object

/-! ### The port of a Service -/

/-- The text of a target port. -/
def targetText : TargetPort → String
  | .number port => Text.signedDecimal port
  | .name port => port

/-- Whether a port of a Service has a name or a target of the given text. -/
def isNamed (text : String) (port : ServicePort) : Bool :=
  port.name == some text || port.target.map targetText == some text

/-- The port of a Service that a text refers to. -/
def findPort? (service : Service) (text : String) : Option ServicePort := do
  let spec ← service.spec
  let ports ← spec.ports
  match ports.find? (isNamed text) with
  | some port => some port
  | none => do
    let number ← Text.readSigned? 32 text
    ports.find? (·.port == number)

/-! ### The addresses behind a port -/

/-- An address that serves a port. -/
structure PortAddress where
  ip : String
  port : Int
  /-- The namespace and the name of the pod behind the address, empty if there is none. -/
  target : String
  deriving DecidableEq

/-- The namespace and the name of the pod that an address belongs to. -/
def podText : Option TargetRef → String
  | none => ""
  | some ref => ref.namespaceName.getD "" ++ "/" ++ ref.name.getD ""

/-- The first port of a subset with a name, where a missing name counts as empty. -/
def Subset.port? (subset : Subset) (name : String) : Option EndpointPort :=
  (subset.ports.getD []).find? (·.name.getD "" == name)

/-- The addresses of a subset that serve a port of a name. -/
def Subset.serving (subset : Subset) (name : String) : List PortAddress :=
  match Subset.port? subset name with
  | none => []
  | some port => (subset.addresses.getD []).map fun address =>
    { ip := address.ip, port := port.port, target := podText address.targetRef }

/-- The addresses of endpoints that serve a port of a Service, in the order of the subsets. -/
def addressesOf (endpoints : Endpoints) (port : ServicePort) : List PortAddress :=
  (endpoints.subsets.getD []).flatMap fun subset => Subset.serving subset (port.name.getD "")

/-! ### Backends -/

/-- One server of a backend. -/
structure Endpoint where
  name : String
  ip : String
  port : Int
  /-- The pod behind the server. -/
  target : String
  deriving DecidableEq

/-- A public port and the servers behind it. -/
structure Backend where
  name : String
  port : Nat
  endpoints : List Endpoint
  proxy : ProxyProtocol := {}
  /-- The file with the certificate, empty without TLS. -/
  certificatePath : String := ""
  deriving DecidableEq

/-- The name of the server at a position, counted from one. -/
def endpointName (position : Nat) : String :=
  "srv" ++ Text.zeroPadded 3 position

/-- The servers for a list of addresses, named by their positions. -/
def endpointsOf (addresses : List PortAddress) : List Endpoint :=
  addresses.mapIdx fun i a =>
    { name := endpointName (i + 1), ip := a.ip, port := a.port, target := a.target }

/-- The name of the backend for a Service: its reference with underscores for slashes. -/
def backendName (service : String) : String :=
  String.ofList (service.toList.map fun c => if c = '/' then '_' else c)

/-- Whether two servers are the same, whatever pods are behind them. -/
def Endpoint.sameAs (a b : Endpoint) : Bool :=
  a.name == b.name && a.ip == b.ip && a.port == b.port

/-- Whether two lists agree in length and in every position. -/
def sameList {α : Type} (same : α → α → Bool) : List α → List α → Bool
  | [], [] => true
  | a :: as, b :: bs => same a b && sameList same as bs
  | _, _ => false

/-- Whether two backends are the same, whatever pods are behind them. -/
def Backend.sameAs (a b : Backend) : Bool :=
  a.name == b.name && a.port == b.port && sameList Endpoint.sameAs a.endpoints b.endpoints &&
    a.proxy == b.proxy && a.certificatePath == b.certificatePath

end IngressController.TcpService
