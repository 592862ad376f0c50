import IngressController.Annotations.Key
import IngressController.Annotations.Reader
import IngressController.Journal

/-!
# Talking to the servers

The servers behind an Ingress can be talked to in TLS, their certificates verified against an
authority from a secret in the namespace of the Ingress. Here a missing secret is an error: to talk
without the verification that was asked for would weaken the configuration. Requests can also go to
the address of the Service in place of its endpoints.
-/

set_option autoImplicit false

namespace IngressController.Annotations

open Object

/-- A certificate authority that a secret holds. -/
structure Certificate where
  /-- The namespace and the name of the secret. -/
  secret : String := ""
  /-- The file with the certificate. -/
  fileName : String := ""
  deriving DecidableEq

/-- How the servers are talked to. -/
structure ServerTls where
  secure : Bool := false
  certificate : Certificate := {}
  deriving DecidableEq

/-- A name with a namespace in front; an empty name stays empty. -/
def qualifiedName (name namespaceName : String) : String :=
  if name = "" then "" else namespaceName ++ "/" ++ name

/-- How the servers of an Ingress are talked to, given what certificate each secret holds. -/
def ServerTls.resolve (certificate? : String → Option Certificate) (ing : Ingress) :
    Except Error ServerTls :=
  let secure := orElse (boolOf ing Key.secureBackends.name) false
  let authority := orElse (textOf ing Key.secureVerifyCaSecret.name) ""
  if authority = "" then .ok { secure := secure }
  else
    let secret := qualifiedName authority ing.metadata.namespaceText
    if !secure then .error (.verifyWithoutTls secret)
    else match certificate? secret with
      | some certificate => .ok { secure := secure, certificate := certificate }
      | none => .error (.secretNotFound secret)

/-- Whether requests to an Ingress go to the address of the Service. A text that is no truth value
counts as missing and is reported. -/
def resolveServiceAddress (ing : Ingress) : Reported (Except Error Bool) :=
  match boolOf ing Key.serviceAddress.name with
  | .ok value => pure (.ok value)
  | .error e => do
    if !e.isMissing then Reported.log .warn "ignoring service upstream annotation"
    pure (.error .missing)

end IngressController.Annotations
