import IngressController.Journal
import IngressController.Stores
import IngressController.TcpService.Backend

/-!
# From the TCP services table to backends

Every entry of the table becomes a backend or is skipped, on its own; the Service is looked up
first, then its port, the secret and the endpoints. Only a failing look-up ends a pass, and with it
the pass has no result. The backends of a pass are ordered by name and then by public port, the
skipped entries as in the table.
-/

set_option autoImplicit false

namespace IngressController.TcpService

open Object

/-- The look-ups that a pass makes. Finding nothing is an answer, failing is not. -/
structure Lookups where
  service : String → String → Except CacheError (Option Service)
  endpoints : Service → Except CacheError (Option Endpoints)
  certificatePath : String → Except CacheError (Option String)

/-- The look-ups in the stores. -/
def Lookups.ofStores (s : Stores) : Lookups where
  service := s.getService
  endpoints := s.getEndpoints
  certificatePath := s.getCertificatePath

/-- The same look-ups, but those of one kind of objects fail. -/
def Lookups.failing (l : Lookups) (e : CacheError) : Lookups where
  service namespaceName name :=
    if e.kind = "service" then .error e else l.service namespaceName name
  endpoints service := if e.kind = "endpoints" then .error e else l.endpoints service
  certificatePath secret := if e.kind = "secret" then .error e else l.certificatePath secret

/-- What becomes of an entry whose look-ups do not fail. -/
abbrev Verdict := Except Skip Backend

namespace Lookups

/-- Looks up the Service that a loose reference names. -/
def referredService (l : Lookups) (reference : String) : Except CacheError (Option Service) :=
  match NameReference.cut? reference with
  | some r => l.service r.namespaceName r.name
  | none => .ok none

/-- Looks up the certificate file of a directive; without a secret there is none to look up. -/
def certificateOf (l : Lookups) (d : Directive) : Except CacheError (Except Skip String) :=
  if d.secret = "" then .ok (.ok "")
  else (l.certificatePath d.secret).map fun
    | some path => .ok path
    | none => .error (.secretNotFound d.publicPort d.secret)

/-- Looks up the addresses that serve a port of a Service. -/
def servers (l : Lookups) (service : Service) (port : ServicePort) :
    Except CacheError (List PortAddress) :=
  (l.endpoints service).map fun
    | some endpoints => addressesOf endpoints port
    | none => []

/-- What becomes of a directive. -/
def resolve (l : Lookups) (d : Directive) : Except CacheError Verdict := do
  let some service ← l.referredService d.service
    | return .error (.serviceNotFound d.publicPort d.service)
  let some port := findPort? service d.port
    | return .error (.portNotFound d.publicPort d.service d.port)
  match ← l.certificateOf d with
  | .error skip => return .error skip
  | .ok path =>
    let addresses ← l.servers service port
    return .ok {
      name := backendName d.service
      port := d.publicPort
      endpoints := endpointsOf addresses
      proxy := d.proxy
      certificatePath := path }

/-- What becomes of an entry of the table. -/
def convert (l : Lookups) (publicPort directive : String) : Except CacheError Verdict :=
  match Directive.parse publicPort directive with
  | .error skip => .ok (.error skip)
  | .ok d => l.resolve d

end Lookups

/-! ### A pass over the table -/

/-- The result of a pass. -/
structure Outcome where
  /-- The backends by name and public port. -/
  backends : List Backend := []
  /-- The skipped entries in the order of the table. -/
  skipped : List Skip := []
  deriving DecidableEq

/-- Whether a backend comes before another or has the same name and port. -/
def Backend.ordered (a b : Backend) : Bool :=
  decide (a.name < b.name ∨ a.name = b.name ∧ a.port ≤ b.port)

/-- Takes the verdict on an entry into the outcome. A skipped entry is reported and counted. -/
def Outcome.add (outcome : Outcome) : Verdict → Reported Outcome
  | .ok backend => pure { outcome with backends := outcome.backends ++ [backend] }
  | .error skip => do
    Reported.log .warn skip.message
    Reported.measure (.tcpSkip skip.reason)
    pure { outcome with skipped := outcome.skipped ++ [skip] }

/-- Goes on through the entries of the table up to the first failing look-up. -/
def convertAll (l : Lookups) (outcome : Outcome) :
    List (String × String) → Reported (Except CacheError Outcome)
  | [] => pure (.ok outcome)
  | (publicPort, directive) :: rest =>
    match l.convert publicPort directive with
    | .error e => pure (.error e)
    | .ok verdict => do
      let outcome ← outcome.add verdict
      convertAll l outcome rest

/-- One pass over the table. The number of backends is measured when the pass has a result. -/
def sync (l : Lookups) (table : TextMap String) : Reported (Except CacheError Outcome) := do
  match ← convertAll l {} table.entries with
  | .error e => pure (.error e)
  | .ok outcome => do
    Reported.measure (.tcpBackends outcome.backends.length)
    pure (.ok { outcome with backends := outcome.backends.mergeSort Backend.ordered })

end IngressController.TcpService
