import IngressController.Journal

/-!
# Leadership

Only the leader among the pods of the controller writes to the Ingresses. A pod knows whether it
leads and who was last seen to lead; it tells when either changes, and only then.
-/

set_option autoImplicit false

namespace IngressController

/-- What a pod knows about the leadership. -/
structure Leadership where
  /-- The name of the pod. -/
  identity : String
  leading : Bool := false
  /-- The leader last seen, empty before there was one. -/
  leader : String := ""
  deriving DecidableEq

namespace Leadership

/-- A change of the leadership. -/
inductive Event where
  | started
  | stopped
  | newLeader (identity : String)
  deriving DecidableEq

/-- Logs a change; the pod's own leadership is also measured. -/
def Event.report : Event → Reported Unit
  | started => do
    Reported.log .info "I am the new status update leader"
    Reported.measure (.leadership true)
  | stopped => do
    Reported.log .info "I am not status update leader anymore"
    Reported.measure (.leadership false)
  | newLeader identity => Reported.log .info ("new leader elected: " ++ identity)

/-- Logs and measures changes in order. -/
def reportAll : List Event → Reported Unit
  | [] => pure ()
  | e :: rest => do
    e.report
    reportAll rest

/-- Takes note of who holds the lease. Nobody is no change. -/
def observe (l : Leadership) (holder : String) : Leadership × List Event :=
  if holder = "" ∨ l.leader = holder then (l, [])
  else ({ l with leader := holder }, [.newLeader holder])

/-- Takes note of whether the pod leads. One that begins to lead sees itself as the leader. -/
def setLeading (l : Leadership) (leading : Bool) : Leadership × List Event :=
  if l.leading = leading then (l, [])
  else if leading then
    let (l, events) := { l with leading := true }.observe l.identity
    (l, .started :: events)
  else ({ l with leading := false }, [.stopped])

/-- The leadership of a pod that leads from the start. -/
def holding (identity : String) : Leadership :=
  ({ identity : Leadership }.setLeading true).1

end Leadership

end IngressController
