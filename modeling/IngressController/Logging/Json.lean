import IngressController.Json
import IngressController.Logging.Settings

/-!
# Settings of the log in JSON
-/

set_option autoImplicit false

namespace IngressController.Logging

/-- The members that describe the form of a log line. -/
def Format.members : Format → List (String × Json)
  | compact coloured => [("format", .str "compact"), ("ansi", .bool coloured)]
  | json => [("format", .str "json")]

/-- Settings of the log in JSON. -/
def Settings.toJson (s : Settings) : Json :=
  .obj (s.format.members ++ [("filter", .str s.filter.text), ("file", .bool s.showsFile),
    ("lineNumber", .bool s.showsLineNumber), ("threadNames", .bool s.showsThreadName),
    ("target", .bool s.showsTarget)])

end IngressController.Logging
