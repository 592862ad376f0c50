import IngressController.CommandLine.Json
import IngressController.Controller.Run

/-!
# The command line

Reads the options and the environment, runs the controller and prints what it logs. No client for a
cluster is built in, so the controller finds none and says so.
-/

set_option autoImplicit false

namespace IngressController.CommandLine

/-- The variables of the environment that the controller reads. -/
def environmentNames : List String :=
  Flag.all.filterMap Flag.variableName ++
    ["POD_NAME", "POD_NAMESPACE", "RUST_LOG", "RUST_LOG_FORMAT"]

/-- The environment, as far as the controller reads it. -/
def readEnvironment : IO (TextMap String) := do
  let mut environment : TextMap String := ∅
  for name in environmentNames do
    if let some value ← IO.getEnv name then
      environment := environment.insert name value
  return environment

/-- The status that the command ends with when its arguments are refused. Asking for help or for the
version is no failure. -/
def Refusal.exitCode : Refusal → UInt32
  | displayHelp | displayVersion => 0
  | _ => 2

/-- The first moments of a controller without access to a cluster. -/
def runDetached (options : Options) (environment : TextMap String) : Reported Controller :=
  let setup : Controller.Setup := { options, environment, hasClient := false }
  Controller.settle 0 { setup }

end IngressController.CommandLine

/-- Runs the controller. -/
def main (arguments : List String) : IO UInt32 := do
  let environment ← IngressController.CommandLine.readEnvironment
  match IngressController.CommandLine.Options.parse arguments environment with
  | .error refusal =>
    IO.eprintln ("error: " ++ refusal.name)
    return refusal.exitCode
  | .ok options =>
    let run := IngressController.CommandLine.runDetached options environment
    for line in run.notes.filterMap IngressController.Note.line? do
      IO.println line
    match run.value.outcome? with
    | some (.error exit) =>
      IO.eprintln ("Error: " ++ exit.chain)
      return 1
    | _ => return 0
