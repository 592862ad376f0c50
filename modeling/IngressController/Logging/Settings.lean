import IngressController.Logging.Filter
import IngressController.Text.Map

/-!
# How the controller logs

The environment can set a filter and ask for lines in JSON. A filter that cannot be read is as good
as none.
-/

set_option autoImplicit false

namespace IngressController.Logging

/-- The form of a log line. -/
inductive Format where
  /-- One line of text, coloured if the terminal is to show it so. -/
  | compact (coloured : Bool)
  | json
  deriving DecidableEq

/-- How the controller logs. -/
structure Settings where
  filter : Filter := .ofDirectives [{ threshold := .info }]
  format : Format := .compact true
  /-- Whether a line says where in the text of the controller it comes from. -/
  showsFile : Bool := true
  showsLineNumber : Bool := true
  showsThreadName : Bool := true
  /-- Whether a line names its target. -/
  showsTarget : Bool := false
  deriving DecidableEq

/-- The settings that an environment asks for. -/
def Settings.ofEnvironment (environment : TextMap String) : Settings where
  filter := ((environment.get? "RUST_LOG").bind Filter.parse?).getD
    (.ofDirectives [{ threshold := .info }])
  format :=
    if (environment.get? "RUST_LOG_FORMAT").map String.toLower = some "json" then .json
    else .compact true

end IngressController.Logging
