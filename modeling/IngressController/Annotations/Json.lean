import IngressController.Annotations.Extract
import IngressController.Json

/-!
# Resolved annotations as JSON

The configuration of each feature in the form in which it is handed on, and the errors of features
with their kinds and texts.
-/

set_option autoImplicit false

namespace IngressController.Annotations

/-- The configuration of a feature. -/
def Feature.configJson : (f : Feature) → f.Config → Json
  | .cors, c => .obj [("corsEnabled", .bool c.enabled), ("corsAllowOrigin", .str c.allowOrigin),
      ("corsAllowMethods", .str c.allowMethods), ("corsAllowHeaders", .str c.allowHeaders),
      ("corsAllowCredentials", .bool c.allowCredentials),
      ("corsExposeHeaders", .str c.exposeHeaders), ("corsMaxAge", .int c.maxAge)]
  | .proxy, c => .obj [("bodySize", .str c.bodySize), ("connectTimeout", .int c.connectTimeout),
      ("sendTimeout", .int c.sendTimeout), ("readTimeout", .int c.readTimeout),
      ("bufferSize", .str c.bufferSize), ("cookieDomain", .str c.cookieDomain),
      ("cookiePath", .str c.cookiePath), ("nextUpstream", .str c.nextServer),
      ("passParams", .str c.passParams), ("requestBuffering", .str c.requestBuffering)]
  | .whitelist, c => .obj [("cidr", .texts c.cidr)]
  | .redirect, c => .obj [("target", .str c.target), ("sslRedirect", .bool c.sslRedirect),
      ("forceSslRedirect", .bool c.forceSslRedirect), ("appRoot", .str c.appRoot)]
  | .portInRedirect, c => .bool c
  | .serverTls, c => .obj [("secure", .bool c.secure),
      ("caCert", .obj [("secret", .str c.certificate.secret),
        ("caFileName", .str c.certificate.fileName)])]
  | .serviceAddress, c => .bool c
  | .sessionAffinity, c => .obj [("affinityType", .str c.kind),
      ("cookieConfig", .obj [("name", .str c.cookie.name), ("hash", .str c.cookie.hash),
        ("strategy", .str c.cookie.strategy), ("dynamic", .bool c.cookie.dynamic)])]
  | .sslPassthrough, c =>
      .obj [("hasSslPassthrough", .bool c.enabled), ("httpPort", .int c.httpPort)]
  | .healthCheck, c => .obj [("uri", .str c.uri), ("addr", .str c.addr), ("port", .str c.port),
      ("interval", .str c.interval), ("riseCount", .str c.riseCount),
      ("fallCount", .str c.fallCount)]

/-- The name of the kind of an error. -/
def Error.kind : Error → String
  | missing => "MissingAnnotations"
  | invalid .. => "InvalidContent"
  | denied .. => "LocationDenied"
  | secretNotFound _ => "SecretNotFound"
  | verifyWithoutTls _ => "Configuration"

/-- The members that describe an error; a denied location comes with what takes its place. -/
def Error.members (e : Error) : List (String × Json) :=
  let fallback := match e with
    | denied _ range => [("fallback", Json.obj [("cidr", .texts range.cidr)])]
    | _ => []
  [("error", .str e.kind), ("message", .str e.message), ("missing", .bool e.isMissing),
    ("denied", .bool e.isDenied)] ++ fallback

end IngressController.Annotations
