import IngressController.Annotations.Key
import IngressController.Annotations.Reader
import IngressController.Journal

/-!
# Sessions and pass-through

Requests of one session can be kept on one server by a cookie, whose settings are
resolved only where the cookie is asked for. TLS can be passed through to the servers as it is,
with a plain port beside it.
-/

set_option autoImplicit false

namespace IngressController.Annotations

open Object

/-- The cookie that a session is known by. -/
structure Cookie where
  name : String := ""
  hash : String := ""
  strategy : String := ""
  dynamic : Bool := false
  deriving DecidableEq

/-- How sessions are kept together. -/
structure Affinity where
  /-- By what they are; empty if they are not. -/
  kind : String := ""
  cookie : Cookie := {}
  deriving DecidableEq

/-- How TLS is passed through. -/
structure Passthrough where
  enabled : Bool := false
  /-- The plain port beside it, zero for none. -/
  httpPort : Int := 0
  deriving DecidableEq

/-- The text of an annotation if it passes a check, or another one in its place. -/
def textIf (isValid : String → Bool) (ing : Ingress) (key : Key) (default : String) : String :=
  match textOf ing key.name with
  | .ok value => if isValid value then value else default
  | .error _ => default

/-- The cookie of an Ingress that keeps sessions by one. -/
def Cookie.resolve (ing : Ingress) : Cookie where
  name := nonemptyText ing Key.sessionCookieName.name "INGRESSCOOKIE"
  hash := textIf isCookieHash ing .sessionCookieHash "md5"
  strategy := textIf isCookieStrategy ing .sessionCookieStrategy "insert"
  dynamic := orElse (boolOf ing Key.sessionCookieDynamic.name) true

/-- How the sessions of an Ingress are kept together. -/
def Affinity.resolve (ing : Ingress) : Affinity :=
  let kind := orElse (textOf ing Key.affinity.name) ""
  { kind := kind, cookie := if kind = "cookie" then Cookie.resolve ing else {} }

/-- How TLS is passed through. A text that is no truth value counts as missing and is reported. -/
def Passthrough.resolve (ing : Ingress) : Reported (Except Error Passthrough) :=
  match boolOf ing Key.sslPassthrough.name with
  | .ok enabled =>
    pure (.ok { enabled, httpPort := orElse (intOf ing Key.sslPassthroughHttpPort.name) 0 })
  | .error e => do
    if !e.isMissing then Reported.log .warn "ignoring ssl passthrough annotation"
    pure (.error .missing)

end IngressController.Annotations
