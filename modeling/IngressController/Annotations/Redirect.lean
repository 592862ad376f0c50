import IngressController.Annotations.Key
import IngressController.Annotations.Reader
import IngressController.DefaultBackend

/-!
# Redirecting requests

Whether plain requests are redirected to TLS and whether redirects keep the listening port are
inherited from the default backend unless the Ingress says so itself. For the port it matters
whether the annotation is missing or false: missing inherits, false does not; a text that is no
truth value counts as missing and is reported.
-/

set_option autoImplicit false

namespace IngressController.Annotations

open Object

/-- How requests are redirected, and to which path they go. -/
structure Redirect where
  /-- The path that requests are sent on with. -/
  target : String := ""
  /-- Redirect to TLS where the Ingress has it. -/
  sslRedirect : Bool := false
  /-- Redirect to TLS everywhere. -/
  forceSslRedirect : Bool := false
  /-- The path that requests for the root are redirected to. -/
  appRoot : String := ""
  deriving DecidableEq

/-- How requests to an Ingress are redirected, and to which path they go. -/
def Redirect.resolve (backend : DefaultBackend) (ing : Ingress) : Redirect where
  target := orElse (textOf ing Key.targetPath.name) ""
  sslRedirect := orElse (boolOf ing Key.sslRedirect.name) backend.sslRedirect
  forceSslRedirect := orElse (boolOf ing Key.forceSslRedirect.name) false
  appRoot := orElse (textOf ing Key.appRoot.name) ""

/-- Whether redirects keep the listening port. -/
def resolvePortInRedirect (backend : DefaultBackend) (ing : Ingress) : Reported Bool :=
  match boolOf ing Key.usePortInRedirects.name with
  | .ok value => pure value
  | .error e => do
    if !e.isMissing then Reported.log .warn "using default backend value"
    pure backend.usePortInRedirects

end IngressController.Annotations
