import IngressController.Annotations.Key
import IngressController.Annotations.Reader
import IngressController.Journal

/-!
# Cross-origin requests

An Ingress may let pages of other origins use it. The policy goes into response headers, so each
of its texts is checked against its form; one that fails the check, like an empty or missing one,
gives way to the built-in value. A policy that is switched off carries nothing else.
-/

set_option autoImplicit false

namespace IngressController.Annotations

open Object

/-- The policy for cross-origin requests. -/
structure Cors where
  enabled : Bool := false
  allowOrigin : String := ""
  allowMethods : String := ""
  allowHeaders : String := ""
  allowCredentials : Bool := false
  exposeHeaders : String := ""
  maxAge : Int := 0
  deriving DecidableEq

namespace Cors

def defaultOrigin : String := "*"

def defaultMethods : String := "GET, PUT, POST, DELETE, PATCH, OPTIONS"

def defaultHeaders : String :=
  "DNT,X-CustomHeader,Keep-Alive,User-Agent,X-Requested-With,If-Modified-Since," ++
    "Cache-Control,Content-Type,Authorization"

/-- One day in seconds. -/
def defaultMaxAge : Int := 86400

/-- The text of an annotation if it has the required form. A text that is neither empty nor of
that form is reported. -/
def checked (ing : Ingress) (key : Key) (isValid : String → Bool) (default : String) :
    Reported String :=
  match textOf ing key.name with
  | .ok value =>
    if value = "" then pure default
    else if isValid value then pure value
    else do
      Reported.log .warn "ignoring invalid CORS annotation value, using default"
      pure default
  | .error _ => pure default

/-- Whether the policy is switched on. The older key is read only where the newer one is missing
or cannot be read. -/
def isEnabled (ing : Ingress) : Bool :=
  match boolOf ing Key.corsEnable.name with
  | .ok enabled => enabled
  | .error _ => orElse (boolOf ing Key.enableCors.name) false

/-- The policy of an Ingress. -/
def resolve (ing : Ingress) : Reported Cors :=
  if isEnabled ing then do
    let origin ← checked ing .corsAllowOrigin isOrigin defaultOrigin
    let headers ← checked ing .corsAllowHeaders isHeaderList defaultHeaders
    let methods ← checked ing .corsAllowMethods isMethodList defaultMethods
    let expose ← checked ing .corsExposeHeaders isHeaderList ""
    pure {
      enabled := true
      allowOrigin := origin
      allowMethods := methods
      allowHeaders := headers
      allowCredentials := orElse (boolOf ing Key.corsAllowCredentials.name) true
      exposeHeaders := expose
      maxAge := orElse (intOf ing Key.corsMaxAge.name) defaultMaxAge }
  else pure {}

end Cors

end IngressController.Annotations
