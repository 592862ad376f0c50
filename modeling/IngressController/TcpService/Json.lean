import IngressController.TcpService.Table

/-!
# Backends of TCP services as JSON

The form in which backends are handed on, and directives, skipped entries and failed look-ups
beside them.
-/

set_option autoImplicit false

namespace IngressController.TcpService

/-- A skipped entry. -/
def Skip.toJson (s : Skip) : Json :=
  .obj [("skip", .str s.reason), ("message", .str s.message)]

/-- The name of a version of the proxy protocol. -/
def ProxyVersion.name : ProxyVersion → String
  | v1 => "V1"
  | v2 => "V2"

/-- The use of the proxy protocol. -/
def ProxyProtocol.toJson (p : ProxyProtocol) : Json :=
  .obj [("decode", .bool p.decode), ("encodeVersion", .orNull (fun v => .str v.name) p.encode)]

/-- A directive. -/
def Directive.toJson (d : Directive) : Json :=
  .obj [("publicPort", .int d.publicPort), ("service", .str d.service), ("port", .str d.port),
    ("proxyProt", d.proxy.toJson), ("encode", .orNull (fun v => .str v.text) d.proxy.encode),
    ("secret", .str d.secret)]

/-- An address that serves a port. -/
def PortAddress.toJson (a : PortAddress) : Json :=
  .obj [("ip", .str a.ip), ("port", .int a.port), ("target", .str a.target)]

/-- One server of a backend. -/
def Endpoint.toJson (e : Endpoint) : Json :=
  .obj [("name", .str e.name), ("ip", .str e.ip), ("port", .int e.port), ("target", .str e.target)]

/-- A backend. -/
def Backend.toJson (b : Backend) : Json :=
  .obj [("name", .str b.name), ("port", .int b.port),
    ("endpoints", .arr (b.endpoints.map Endpoint.toJson)), ("proxyProt", b.proxy.toJson),
    ("ssl", .obj [("filename", .str b.certificatePath)])]

end IngressController.TcpService

namespace IngressController.CacheError

/-- The members that describe a failed look-up. -/
def members (e : CacheError) : List (String × Json) :=
  [("error", .str "CacheError"), ("kind", .str e.kind), ("reason", .str e.reason),
    ("message", .str e.message)]

end IngressController.CacheError
