import IngressController.Annotations.Cors
import IngressController.Annotations.HealthCheck
import IngressController.Annotations.Proxy
import IngressController.Annotations.Redirect
import IngressController.Annotations.Session
import IngressController.Annotations.Servers
import IngressController.Annotations.Whitelist

/-!
# Resolving all annotations of an Ingress

Every feature has a type of configuration and is resolved on its own. Resolving an Ingress goes
through the features one by one: a missing annotation leaves the built-in configuration, a denied
location keeps the list of clients that its error carries, and any other error leaves the built-in
configuration too; but every error other than a missing annotation is recorded, reported and
counted. An Ingress with a recorded error is degraded.
-/

set_option autoImplicit false

namespace IngressController.Annotations

open Object

/-- The type of the configuration of a feature. -/
abbrev Feature.Config : Feature → Type
  | .cors => Cors
  | .proxy => Proxy
  | .whitelist => SourceRange
  | .redirect => Redirect
  | .portInRedirect => Bool
  | .serverTls => ServerTls
  | .serviceAddress => Bool
  | .sessionAffinity => Affinity
  | .sslPassthrough => Passthrough
  | .healthCheck => HealthCheck

/-- What an Ingress is resolved against: the values it inherits and the certificate that each
secret holds. -/
structure Surroundings where
  backend : DefaultBackend
  certificate? : String → Option Certificate

/-- The configuration of one feature of an Ingress. -/
def Feature.resolve (s : Surroundings) (ing : Ingress) :
    (f : Feature) → Reported (Except Error f.Config)
  | .cors => Except.ok <$> Cors.resolve ing
  | .proxy => Except.ok <$> Proxy.resolve s.backend ing
  | .whitelist => Whitelist.resolve s.backend ing
  | .redirect => pure (.ok (Redirect.resolve s.backend ing))
  | .portInRedirect => Except.ok <$> resolvePortInRedirect s.backend ing
  | .serverTls => pure (ServerTls.resolve s.certificate? ing)
  | .serviceAddress => resolveServiceAddress ing
  | .sessionAffinity => pure (.ok (Affinity.resolve ing))
  | .sslPassthrough => Passthrough.resolve ing
  | .healthCheck => pure (.ok (HealthCheck.resolve s.backend ing))

/-- The resolved configuration of an Ingress, and the features that could not be honoured. -/
structure Resolved where
  cors : Cors := {}
  proxy : Proxy := {}
  whitelist : SourceRange := {}
  redirect : Redirect := {}
  portInRedirect : Bool := false
  serverTls : ServerTls := {}
  serviceAddress : Bool := false
  sessionAffinity : Affinity := {}
  sslPassthrough : Passthrough := {}
  healthCheck : HealthCheck := {}
  /-- The errors of features, in the order in which the features are resolved. -/
  errors : List (Feature × Error) := []
  deriving DecidableEq

namespace Resolved

/-- The configuration of a feature. -/
def get (r : Resolved) : (f : Feature) → f.Config
  | .cors => r.cors
  | .proxy => r.proxy
  | .whitelist => r.whitelist
  | .redirect => r.redirect
  | .portInRedirect => r.portInRedirect
  | .serverTls => r.serverTls
  | .serviceAddress => r.serviceAddress
  | .sessionAffinity => r.sessionAffinity
  | .sslPassthrough => r.sslPassthrough
  | .healthCheck => r.healthCheck

/-- Sets the configuration of a feature. -/
def set (r : Resolved) : (f : Feature) → f.Config → Resolved
  | .cors, c => { r with cors := c }
  | .proxy, c => { r with proxy := c }
  | .whitelist, c => { r with whitelist := c }
  | .redirect, c => { r with redirect := c }
  | .portInRedirect, c => { r with portInRedirect := c }
  | .serverTls, c => { r with serverTls := c }
  | .serviceAddress, c => { r with serviceAddress := c }
  | .sessionAffinity, c => { r with sessionAffinity := c }
  | .sslPassthrough, c => { r with sslPassthrough := c }
  | .healthCheck, c => { r with healthCheck := c }

/-- The error of a feature. -/
def error? (r : Resolved) (f : Feature) : Option Error :=
  (r.errors.find? fun entry => entry.1 == f).map (·.2)

/-- Whether some feature could not be honoured. -/
def isDegraded (r : Resolved) : Bool :=
  !r.errors.isEmpty

/-- Whether some feature requires the locations of the Ingress to be denied. -/
def isDenied (r : Resolved) : Bool :=
  r.errors.any fun (_, e) => e.isDenied

/-- Takes the error of a feature into a resolved configuration. -/
def fail (r : Resolved) (f : Feature) (e : Error) : Resolved :=
  let r := match e with
    | .denied _ fallback => { r with whitelist := fallback }
    | _ => r
  { r with errors := r.errors ++ [(f, e)] }

/-- Takes the outcome of a feature into a resolved configuration. -/
def addOutcome (r : Resolved) (f : Feature) : Except Error f.Config → Reported Resolved
  | .ok config => pure (r.set f config)
  | .error .missing => pure r
  | .error e => do
    Reported.log .warn "error reading annotation"
    Reported.measure (.annotationError f.name)
    pure (r.fail f e)

/-- Resolves one more feature. -/
def addFeature (s : Surroundings) (ing : Ingress) (r : Resolved) (f : Feature) :
    Reported Resolved := do
  let outcome ← f.resolve s ing
  r.addOutcome f outcome

end Resolved

/-- Resolves every feature of an Ingress. -/
def extract (s : Surroundings) (ing : Ingress) : Reported Resolved :=
  Feature.all.foldlM (Resolved.addFeature s ing) {}

end IngressController.Annotations
