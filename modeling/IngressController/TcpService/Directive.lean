import IngressController.Text.Blank
import IngressController.Text.Numeral
import IngressController.Text.Split

/-!
# Entries of the TCP services table

The table gives a directive for each public port. Its fields are separated by colons and stand for
the Service, the port of the Service, whether a proxy protocol header is expected, which one is
sent, and the secret with the certificate. Fields that are not given are empty, blanks around a
field are ignored, and what follows the fifth field is not looked at.

An entry that cannot be served is skipped, with a reason; it never gets in the way of the others.
-/

set_option autoImplicit false

namespace IngressController.TcpService

/-! ### The proxy protocol -/

/-- A version of the proxy protocol. -/
inductive ProxyVersion where
  | v1
  | v2
  deriving DecidableEq, Repr

/-- The short name of a version. -/
def ProxyVersion.text : ProxyVersion → String
  | v1 => "v1"
  | v2 => "v2"

/-- Whether a header of the proxy protocol is expected, and which one is sent on. -/
structure ProxyProtocol where
  decode : Bool := false
  encode : Option ProxyVersion := none
  deriving DecidableEq, Repr

/-- Whether the field of a directive asks for a header to be expected. -/
def isDecodeMarker (field : String) : Bool :=
  field == "proxy"

/-- The version that the field of a directive asks to be sent on. -/
def encodeMarker? (field : String) : Option ProxyVersion :=
  if field = "proxy" ∨ field = "proxy-v2" then some .v2
  else if field = "proxy-v1" then some .v1
  else none

/-! ### Skipped entries -/

/-- Why an entry is skipped. -/
inductive Skip where
  | invalidPort (text : String)
  | emptyServiceName (port : Nat)
  | serviceNotFound (port : Nat) (service : String)
  | portNotFound (port : Nat) (service servicePort : String)
  | secretNotFound (port : Nat) (secret : String)
  deriving DecidableEq

namespace Skip

/-- The label under which the skipped entries of a kind are counted. -/
def reason : Skip → String
  | invalidPort _ => "invalid_port"
  | emptyServiceName _ => "empty_service_name"
  | serviceNotFound .. => "service_not_found"
  | portNotFound .. => "port_not_found"
  | secretNotFound .. => "secret_not_found"

/-- The start of the messages about an entry whose directive could be read. -/
def onPort (port : Nat) : String :=
  "skipping TCP service on public port " ++ Text.decimal port ++ ": "

/-- The text of a skip. -/
def message : Skip → String
  | invalidPort text => "skipping invalid public listening port of TCP service: " ++ text
  | emptyServiceName port => "skipping empty TCP service name on public port " ++ Text.decimal port
  | serviceNotFound port service => onPort port ++ "service not found: '" ++ service ++ "'"
  | portNotFound port service servicePort =>
    onPort port ++ "port not found: " ++ service ++ ":" ++ servicePort
  | secretNotFound port secret => onPort port ++ "secret not found: '" ++ secret ++ "'"

end Skip

/-! ### Directives -/

/-- What an entry of the table asks for. -/
structure Directive where
  publicPort : Nat
  /-- The namespace and the name of the Service. -/
  service : String
  /-- The name or the number of a port of the Service. -/
  port : String
  proxy : ProxyProtocol
  /-- The namespace and the name of the secret, empty without TLS. -/
  secret : String
  deriving DecidableEq

namespace Directive

/-- The field at a position, without blanks around it; empty if it is not given. -/
def field (directive : String) (index : Nat) : String :=
  Text.trim (((Text.splitOn ':' directive).take 5).getD index "")

/-- Reads an entry of the table. -/
def parse (publicPort directive : String) : Except Skip Directive :=
  match Text.readUnsigned? 16 publicPort with
  | none => .error (.invalidPort publicPort)
  | some port =>
    if field directive 0 = "" then .error (.emptyServiceName port)
    else .ok {
      publicPort := port
      service := field directive 0
      port := field directive 1
      proxy := {
        decode := isDecodeMarker (field directive 2)
        encode := encodeMarker? (field directive 3) }
      secret := field directive 4 }

end Directive

end IngressController.TcpService
