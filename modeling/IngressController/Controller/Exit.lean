import IngressController.Status.Error

/-!
# Why the controller gives up

The controller ends well only when it is told to by a signal. Every other end has a reason, and some
reasons have an error of keeping the status behind them.
-/

set_option autoImplicit false

namespace IngressController.Controller

/-- Why the controller gives up. -/
inductive Exit where
  /-- There is no access to a cluster. -/
  | noClient
  /-- The controller cannot find out which pod it is. -/
  | noPod (cause : Status.Error)
  /-- The election has ended without having been told to. -/
  | electionEnded
  | electionFailed (cause : Status.Error)
  deriving DecidableEq

namespace Exit

/-- The reason for the end of the controller when the election ends. -/
def ofElection : Except Status.Error Unit → Exit
  | .ok () => electionEnded
  | .error cause => electionFailed cause

/-- The error behind a reason. -/
def cause? : Exit → Option Status.Error
  | noPod cause | electionFailed cause => some cause
  | _ => none

/-- The text of a reason by itself. -/
def message : Exit → String
  | noClient => "unable to create Kubernetes client"
  | noPod _ => "unable to get POD information"
  | electionEnded => "leader election stopped unexpectedly"
  | electionFailed _ => "leader election failed"

/-- The text of a reason followed by that of the error behind it. -/
def chain (e : Exit) : String :=
  ": ".intercalate (e.message :: (e.cause?.map Status.Error.message).toList)

end Exit

end IngressController.Controller
