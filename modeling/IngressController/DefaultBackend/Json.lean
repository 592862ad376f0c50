import IngressController.DefaultBackend
import IngressController.Json

/-!
# The default backend as JSON

Every setting under the key by which a config map gives it.
-/

set_option autoImplicit false

namespace IngressController

/-- The settings of the default backend. -/
def DefaultBackend.toJson (b : DefaultBackend) : Json :=
  .obj [("proxy-body-size", .str b.proxyBodySize),
    ("proxy-connect-timeout", .int b.proxyConnectTimeout),
    ("proxy-send-timeout", .int b.proxySendTimeout),
    ("proxy-read-timeout", .int b.proxyReadTimeout),
    ("proxy-buffer-size", .str b.proxyBufferSize),
    ("proxy-cookie-path", .str b.proxyCookiePath),
    ("proxy-cookie-domain", .str b.proxyCookieDomain),
    ("proxy-next-upstream", .str b.proxyNextServer),
    ("proxy-pass-params", .str b.proxyPassParams),
    ("proxy-request-buffering", .str b.proxyRequestBuffering),
    ("ssl-redirect", .bool b.sslRedirect),
    ("use-port-in-redirects", .bool b.usePortInRedirects),
    ("whitelist-source-range", .texts b.whitelistSourceRange),
    ("health-check-uri", .str b.healthCheckUri),
    ("health-check-addr", .str b.healthCheckAddr),
    ("health-check-port", .str b.healthCheckPort),
    ("health-check-interval", .str b.healthCheckInterval),
    ("health-check-rise-count", .str b.healthCheckRiseCount),
    ("health-check-fall-count", .str b.healthCheckFallCount)]

end IngressController
