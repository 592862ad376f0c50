/-!
# The annotation keys and the features they belong to

A feature is a part of the configuration of one Ingress that is resolved on its own. Every
annotation key belongs to the one feature that reads it.
-/

set_option autoImplicit false

namespace IngressController.Annotations

/-- The features of an Ingress. -/
inductive Feature where
  | cors
  | proxy
  | whitelist
  | redirect
  | portInRedirect
  | serverTls
  | serviceAddress
  | sessionAffinity
  | sslPassthrough
  | healthCheck
  deriving DecidableEq, Repr

namespace Feature

/-- Every feature, in the order in which they are resolved. -/
def all : List Feature :=
  [cors, proxy, whitelist, redirect, portInRedirect, serverTls, serviceAddress,
    sessionAffinity, sslPassthrough, healthCheck]

theorem mem_all (f : Feature) : f ∈ all := by
  cases f <;> decide

/-- The name of a feature in logs and metrics. -/
def name : Feature → String
  | cors => "cors"
  | proxy => "proxy"
  | whitelist => "whitelist"
  | redirect => "rewrite"
  | portInRedirect => "port-in-redirect"
  | serverTls => "secure-upstream"
  | serviceAddress => "service-upstream"
  | sessionAffinity => "session-affinity"
  | sslPassthrough => "ssl-passthrough"
  | healthCheck => "health-check"

/-- The feature with a name. -/
def ofName? (text : String) : Option Feature :=
  all.find? fun f => f.name == text

end Feature

/-- The annotation keys that features read. -/
inductive Key where
  | corsEnable
  | enableCors
  | corsAllowOrigin
  | corsAllowMethods
  | corsAllowHeaders
  | corsAllowCredentials
  | corsExposeHeaders
  | corsMaxAge
  | proxyBodySize
  | proxyConnectTimeout
  | proxySendTimeout
  | proxyReadTimeout
  | proxyBufferSize
  | proxyCookiePath
  | proxyCookieDomain
  | proxyNextServer
  | proxyPassParams
  | proxyRequestBuffering
  | whitelistSourceRange
  | targetPath
  | sslRedirect
  | forceSslRedirect
  | appRoot
  | usePortInRedirects
  | secureBackends
  | secureVerifyCaSecret
  | serviceAddress
  | affinity
  | sessionCookieName
  | sessionCookieHash
  | sessionCookieStrategy
  | sessionCookieDynamic
  | sslPassthrough
  | sslPassthroughHttpPort
  | healthCheckUri
  | healthCheckAddr
  | healthCheckPort
  | healthCheckInterval
  | healthCheckRiseCount
  | healthCheckFallCount
  deriving DecidableEq, Repr

namespace Key

/-- The part of an annotation key behind the domain that all keys share. -/
def localName : Key → String
  | corsEnable => "cors-enable"
  | enableCors => "enable-cors"
  | corsAllowOrigin => "cors-allow-origin"
  | corsAllowMethods => "cors-allow-methods"
  | corsAllowHeaders => "cors-allow-headers"
  | corsAllowCredentials => "cors-allow-credentials"
  | corsExposeHeaders => "cors-expose-headers"
  | corsMaxAge => "cors-max-age"
  | proxyBodySize => "proxy-body-size"
  | proxyConnectTimeout => "proxy-connect-timeout"
  | proxySendTimeout => "proxy-send-timeout"
  | proxyReadTimeout => "proxy-read-timeout"
  | proxyBufferSize => "proxy-buffer-size"
  | proxyCookiePath => "proxy-cookie-path"
  | proxyCookieDomain => "proxy-cookie-domain"
  | proxyNextServer => "proxy-next-upstream"
  | proxyPassParams => "proxy-pass-params"
  | proxyRequestBuffering => "proxy-request-buffering"
  | whitelistSourceRange => "whitelist-source-range"
  | targetPath => "rewrite-target"
  | sslRedirect => "ssl-redirect"
  | forceSslRedirect => "force-ssl-redirect"
  | appRoot => "app-root"
  | usePortInRedirects => "use-port-in-redirects"
  | secureBackends => "secure-backends"
  | secureVerifyCaSecret => "secure-verify-ca-secret"
  | serviceAddress => "service-upstream"
  | affinity => "affinity"
  | sessionCookieName => "session-cookie-name"
  | sessionCookieHash => "session-cookie-hash"
  | sessionCookieStrategy => "session-cookie-strategy"
  | sessionCookieDynamic => "session-cookie-dynamic"
  | sslPassthrough => "ssl-passthrough"
  | sslPassthroughHttpPort => "ssl-passthrough-http-port"
  | healthCheckUri => "health-check-uri"
  | healthCheckAddr => "health-check-addr"
  | healthCheckPort => "health-check-port"
  | healthCheckInterval => "health-check-interval"
  | healthCheckRiseCount => "health-check-rise-count"
  | healthCheckFallCount => "health-check-fall-count"

/-- An annotation key as it stands on an Ingress. -/
def name (key : Key) : String :=
  "ingress.kubernetes.io/" ++ key.localName

/-- The feature that reads a key. -/
def owner : Key → Feature
  | corsEnable | enableCors | corsAllowOrigin | corsAllowMethods | corsAllowHeaders
  | corsAllowCredentials | corsExposeHeaders | corsMaxAge => .cors
  | proxyBodySize | proxyConnectTimeout | proxySendTimeout | proxyReadTimeout | proxyBufferSize
  | proxyCookiePath | proxyCookieDomain | proxyNextServer | proxyPassParams
  | proxyRequestBuffering => .proxy
  | whitelistSourceRange => .whitelist
  | targetPath | sslRedirect | forceSslRedirect | appRoot => .redirect
  | usePortInRedirects => .portInRedirect
  | secureBackends | secureVerifyCaSecret => .serverTls
  | serviceAddress => .serviceAddress
  | affinity | sessionCookieName | sessionCookieHash | sessionCookieStrategy
  | sessionCookieDynamic => .sessionAffinity
  | sslPassthrough | sslPassthroughHttpPort => .sslPassthrough
  | healthCheckUri | healthCheckAddr | healthCheckPort | healthCheckInterval
  | healthCheckRiseCount | healthCheckFallCount => .healthCheck

end Key

end IngressController.Annotations
