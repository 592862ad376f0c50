import IngressController.Annotations.Key
import IngressController.Annotations.Reader
import IngressController.DefaultBackend

/-!
# Timeouts, buffers and cookies of the proxy

Each setting is the annotation of the Ingress if that is present, readable and not empty, and the
one of the default backend otherwise. The size limit of request bodies is checked behind that: a
text that is no size means no limit, and is reported unless it says so.
-/

set_option autoImplicit false

namespace IngressController.Annotations

open Object

/-- The settings of the proxy. -/
structure Proxy where
  /-- The size limit of request bodies; empty for no limit. -/
  bodySize : String := ""
  connectTimeout : Int := 0
  sendTimeout : Int := 0
  readTimeout : Int := 0
  bufferSize : String := ""
  cookieDomain : String := ""
  cookiePath : String := ""
  nextServer : String := ""
  passParams : String := ""
  requestBuffering : String := ""
  deriving DecidableEq

namespace Proxy

/-- The word for a body of any size. -/
def unlimited : String := "unlimited"

/-- A size limit, or no limit in place of a text that is none. -/
def checkedBodySize (size : String) : Reported String :=
  if isBodySize size then pure size
  else if size = unlimited then pure ""
  else do
    Reported.log .warn "ignoring invalid body size"
    pure ""

/-- The settings of an Ingress. -/
def resolve (backend : DefaultBackend) (ing : Ingress) : Reported Proxy := do
  let text (key : Key) := nonemptyText ing key.name
  let int (key : Key) := orElse (intOf ing key.name)
  let bodySize ← checkedBodySize (text .proxyBodySize backend.proxyBodySize)
  pure {
    bodySize := bodySize
    connectTimeout := int .proxyConnectTimeout backend.proxyConnectTimeout
    sendTimeout := int .proxySendTimeout backend.proxySendTimeout
    readTimeout := int .proxyReadTimeout backend.proxyReadTimeout
    bufferSize := text .proxyBufferSize backend.proxyBufferSize
    cookieDomain := text .proxyCookieDomain backend.proxyCookieDomain
    cookiePath := text .proxyCookiePath backend.proxyCookiePath
    nextServer := text .proxyNextServer backend.proxyNextServer
    passParams := text .proxyPassParams backend.proxyPassParams
    requestBuffering := text .proxyRequestBuffering backend.proxyRequestBuffering }

end Proxy

end IngressController.Annotations
