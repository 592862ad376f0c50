import IngressController.Controller.Basic
import IngressController.Status.Json

/-!
# Ends of the controller in JSON
-/

set_option autoImplicit false

namespace IngressController.Controller

/-- The error behind the end of the controller. That of an election is only named. -/
def causeJson : Status.Error → Json
  | .leaderElection reason =>
    .obj [("error", .str (Status.Error.leaderElection reason).kind)]
  | cause => .obj cause.members

/-- A reason to give up, in JSON. -/
def Exit.toJson (e : Exit) : Json :=
  .obj [("error", .str "Exit"), ("message", .str e.message),
    ("cause", Json.orNull causeJson e.cause?)]

/-- How a controller has ended, in JSON, or that it runs. -/
def outcomeJson (c : Controller) : Json :=
  match c.outcome? with
  | none => .str "running"
  | some (.ok ()) => .str "ok"
  | some (.error e) => e.toJson

end IngressController.Controller
