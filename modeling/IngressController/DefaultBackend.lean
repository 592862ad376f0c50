import IngressController.Journal
import IngressController.Annotations.Format
import IngressController.Text.Map
import IngressController.Text.Numeral
import IngressController.Text.Split

/-!
# The default backend

The default backend holds the values that an Ingress inherits where it sets no annotation, or an
invalid one. A config map overrides the built-in values key by key. Blanks around its values are
ignored; a value that should be a number or a boolean and is not falls back to a value that its
field is read with and is reported; keys that name no field are ignored.

The entries of a config map are gone through one by one, and each value is read as its field is. To
give a field twice is an error that makes all of them count for nothing.
-/

set_option autoImplicit false

namespace IngressController

/-- The values that Ingresses inherit; the defaults of the fields are the built-in ones. -/
structure DefaultBackend where
  proxyBodySize : String := "1m"
  proxyConnectTimeout : Int := 5
  proxySendTimeout : Int := 60
  proxyReadTimeout : Int := 60
  proxyBufferSize : String := "4k"
  proxyCookiePath : String := "off"
  proxyCookieDomain : String := "off"
  proxyNextServer : String := "error timeout invalid_header http_502 http_503 http_504"
  proxyPassParams : String := ""
  proxyRequestBuffering : String := "on"
  sslRedirect : Bool := true
  usePortInRedirects : Bool := false
  whitelistSourceRange : List String := []
  healthCheckUri : String := ""
  healthCheckAddr : String := ""
  healthCheckPort : String := ""
  healthCheckInterval : String := "2s"
  healthCheckRiseCount : String := ""
  healthCheckFallCount : String := ""
  deriving DecidableEq

namespace DefaultBackend

/-! ### Reading one value -/

/-- The parts of a list with commas, without blanks around them and without blank parts. -/
def commaList (value : String) : List String :=
  ((Text.splitOn ',' value).map Text.trim).filter (· ≠ "")

/-- How a value is read. -/
inductive Reader where
  | text
  /-- A number of 32 bits, with one to fall back on. -/
  | int (fallback : Int)
  /-- A truth value, with one to fall back on. -/
  | bool (fallback : Bool)
  | list

namespace Reader

/-- What is read. -/
abbrev Value : Reader → Type
  | text => String
  | int _ => Int
  | bool _ => Bool
  | list => List String

/-- What has been read, or what to fall back on; that is reported. -/
def lenient {α : Type} (fallback : α) : Option α → Reported α
  | some value => pure value
  | none => do
    Reported.log .warn "ignoring invalid default backend value"
    pure fallback

/-- Reads a value. -/
def read : (r : Reader) → String → Reported r.Value
  | text, value => pure value
  | int fallback, value => lenient fallback (Text.readSigned? 32 (Text.trim value))
  | bool fallback, value => lenient fallback (Annotations.parseBool? (Text.trim value))
  | list, value => pure (commaList value)

end Reader

/-! ### Fields -/

/-- A field of the default backend. -/
inductive Field where
  | proxyBodySize
  | proxyConnectTimeout
  | proxySendTimeout
  | proxyReadTimeout
  | proxyBufferSize
  | proxyCookiePath
  | proxyCookieDomain
  | proxyNextServer
  | proxyPassParams
  | proxyRequestBuffering
  | sslRedirect
  | usePortInRedirects
  | whitelistSourceRange
  | healthCheckUri
  | healthCheckAddr
  | healthCheckPort
  | healthCheckInterval
  | healthCheckRiseCount
  | healthCheckFallCount
  deriving DecidableEq

namespace Field

/-- All fields. -/
def all : List Field :=
  [proxyBodySize, proxyConnectTimeout, proxySendTimeout, proxyReadTimeout, proxyBufferSize,
    proxyCookiePath, proxyCookieDomain, proxyNextServer, proxyPassParams, proxyRequestBuffering,
    sslRedirect, usePortInRedirects, whitelistSourceRange, healthCheckUri, healthCheckAddr,
    healthCheckPort, healthCheckInterval, healthCheckRiseCount, healthCheckFallCount]

/-- The key under which a config map gives a field. -/
def key : Field → String
  | proxyBodySize => "proxy-body-size"
  | proxyConnectTimeout => "proxy-connect-timeout"
  | proxySendTimeout => "proxy-send-timeout"
  | proxyReadTimeout => "proxy-read-timeout"
  | proxyBufferSize => "proxy-buffer-size"
  | proxyCookiePath => "proxy-cookie-path"
  | proxyCookieDomain => "proxy-cookie-domain"
  | proxyNextServer => "proxy-next-upstream"
  | proxyPassParams => "proxy-pass-params"
  | proxyRequestBuffering => "proxy-request-buffering"
  | sslRedirect => "ssl-redirect"
  | usePortInRedirects => "use-port-in-redirects"
  | whitelistSourceRange => "whitelist-source-range"
  | healthCheckUri => "health-check-uri"
  | healthCheckAddr => "health-check-addr"
  | healthCheckPort => "health-check-port"
  | healthCheckInterval => "health-check-interval"
  | healthCheckRiseCount => "health-check-rise-count"
  | healthCheckFallCount => "health-check-fall-count"

/-- How the value of a field is read. -/
def reader : Field → Reader
  | proxyConnectTimeout => .int 5
  | proxySendTimeout => .int 60
  | proxyReadTimeout => .int 60
  | sslRedirect => .bool true
  | usePortInRedirects => .bool false
  | whitelistSourceRange => .list
  | _ => .text

/-- What a field can be. -/
abbrev Value (f : Field) : Type :=
  f.reader.Value

/-- The field that a key names. -/
def ofKey? (key : String) : Option Field :=
  all.find? (·.key == key)

end Field

/-! ### Going through the entries -/

/-- The values of the fields that have been given so far. -/
abbrev Slots : Type := (f : Field) → Option f.Value

/-- A field that is given twice. -/
structure Duplicate where
  field : Field

namespace Slots

/-- No field has been given. -/
def empty : Slots :=
  fun _ => none

/-- The values with one more. -/
def set (slots : Slots) (f : Field) (value : f.Value) : Slots :=
  fun g => if h : f = g then some (h ▸ value) else slots g

/-- Takes an entry of a config map in. -/
def visit (slots : Slots) (key value : String) : Reported (Except Duplicate Slots) :=
  match Field.ofKey? key with
  | none => pure (.ok slots)
  | some f =>
    match slots f with
    | some _ => pure (.error ⟨f⟩)
    | none => do
      let read ← f.reader.read value
      pure (.ok (slots.set f read))

/-- Takes entries in, up to the first field that is given twice. -/
def visitAll (slots : Slots) : List (String × String) → Reported (Except Duplicate Slots)
  | [] => pure (.ok slots)
  | (key, value) :: rest => do
    match ← slots.visit key value with
    | .error duplicate => pure (.error duplicate)
    | .ok slots => slots.visitAll rest

/-- A default backend with the fields that have been given in the place of its own. -/
def fill (slots : Slots) (backend : DefaultBackend) : DefaultBackend where
  proxyBodySize := (slots .proxyBodySize).getD backend.proxyBodySize
  proxyConnectTimeout := (slots .proxyConnectTimeout).getD backend.proxyConnectTimeout
  proxySendTimeout := (slots .proxySendTimeout).getD backend.proxySendTimeout
  proxyReadTimeout := (slots .proxyReadTimeout).getD backend.proxyReadTimeout
  proxyBufferSize := (slots .proxyBufferSize).getD backend.proxyBufferSize
  proxyCookiePath := (slots .proxyCookiePath).getD backend.proxyCookiePath
  proxyCookieDomain := (slots .proxyCookieDomain).getD backend.proxyCookieDomain
  proxyNextServer := (slots .proxyNextServer).getD backend.proxyNextServer
  proxyPassParams := (slots .proxyPassParams).getD backend.proxyPassParams
  proxyRequestBuffering := (slots .proxyRequestBuffering).getD backend.proxyRequestBuffering
  sslRedirect := (slots .sslRedirect).getD backend.sslRedirect
  usePortInRedirects := (slots .usePortInRedirects).getD backend.usePortInRedirects
  whitelistSourceRange := (slots .whitelistSourceRange).getD backend.whitelistSourceRange
  healthCheckUri := (slots .healthCheckUri).getD backend.healthCheckUri
  healthCheckAddr := (slots .healthCheckAddr).getD backend.healthCheckAddr
  healthCheckPort := (slots .healthCheckPort).getD backend.healthCheckPort
  healthCheckInterval := (slots .healthCheckInterval).getD backend.healthCheckInterval
  healthCheckRiseCount := (slots .healthCheckRiseCount).getD backend.healthCheckRiseCount
  healthCheckFallCount := (slots .healthCheckFallCount).getD backend.healthCheckFallCount

end Slots

/-- The entries of a config map without blanks around their values. -/
def trimmedEntries (data : TextMap String) : List (String × String) :=
  data.entries.map fun (key, value) => (key, Text.trim value)

/-- The default backend that the data of a config map describes. -/
def ofData (data : TextMap String) : Reported DefaultBackend := do
  match ← Slots.empty.visitAll (trimmedEntries data) with
  | .ok slots => pure (slots.fill {})
  | .error _ => do
    Reported.log .warn "invalid default backend configuration, using built-in defaults"
    pure {}

end DefaultBackend

end IngressController
