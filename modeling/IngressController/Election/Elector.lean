import IngressController.Leadership
import IngressController.Status.Error

/-!
# The election of a leader, as an elector sees it

An elector takes part in the election of a leader by way of a manager of the lease. It passes on to
the leadership what the manager tells about the lease and who holds it. Told to end, it first lets
the manager go, which gives back the lease meanwhile, and takes the leadership away when the manager
has ended.

Everything that can happen to an elector is an `Occurrence`, so every course of an election is a
list of them.
-/

set_option autoImplicit false

namespace IngressController.Election

/-- How far an elector is. -/
inductive Phase where
  /-- The manager is not there yet. -/
  | preparing
  | electing
  /-- The manager has been let go and has not ended yet. -/
  | releasing (result : Except Status.Error Unit)
  | stopped (result : Except Status.Error Unit)

/-- An elector and the leadership of its pod. -/
structure Elector where
  leadership : Leadership
  phase : Phase := .preparing
  /-- The changes of the leadership so far. -/
  events : List Leadership.Event := []

/-- How a manager has ended. -/
inductive Ending where
  | clean
  /-- It could not give back the lease. -/
  | failed
  /-- It has broken down. -/
  | brokenDown
  deriving DecidableEq

/-- Reports how a manager has ended, unless all is well. -/
def Ending.report : Ending → Reported Unit
  | clean => pure ()
  | failed => Reported.log .warn "lease manager stopped with error"
  | brokenDown => Reported.log .error "lease manager task failed"

/-- Something that happens to an elector. What was read about the holder of the lease comes with it,
empty if the lease is free and nothing if the lease could not be read. -/
inductive Occurrence where
  /-- The manager is there. -/
  | prepared
  /-- There will be no manager. -/
  | unprepared (reason : String)
  /-- The manager tells whether it holds the lease. -/
  | told (leading : Bool) (holder : Option String)
  /-- It was time to look at the lease. -/
  | looked (holder : Option String)
  /-- The manager will tell nothing any more. -/
  | abandoned (reason : String)
  /-- The elector is to end. -/
  | cancelled
  /-- The manager has ended. -/
  | released (ending : Ending)

namespace Elector

/-- An elector with its leadership changed; the changes are reported. -/
def change (e : Elector) (f : Leadership → Leadership × List Leadership.Event) :
    Reported Elector := do
  let (leadership, events) := f e.leadership
  Leadership.reportAll events
  return { e with leadership, events := e.events ++ events }

/-- Takes note of whether the pod leads. -/
def setLeading (leading : Bool) (e : Elector) : Reported Elector :=
  e.change fun l => l.setLeading leading

/-- Takes note of who holds the lease, if that could be read. -/
def observe (holder : Option String) (e : Elector) : Reported Elector :=
  match holder with
  | some holder => e.change fun l => l.observe holder
  | none => pure e

/-- What an elector does when something happens to it. What cannot happen in its phase is no
concern of it. -/
def react (e : Elector) (o : Occurrence) : Reported Elector :=
  match e.phase, o with
  | .preparing, .prepared => do
    Reported.log .info "starting leader election"
    return { e with phase := .electing }
  | .preparing, .unprepared reason =>
    return { e with phase := .stopped (.error (.leaderElection reason)) }
  | .electing, .told leading holder => do
    let e ← e.setLeading leading
    e.observe holder
  | .electing, .looked holder => e.observe holder
  | .electing, .abandoned reason =>
    return { e with phase := .releasing (.error (.leaderElection reason)) }
  | .electing, .cancelled => return { e with phase := .releasing (.ok ()) }
  | .releasing result, .released ending => do
    ending.report
    let e ← e.setLeading false
    return { e with phase := .stopped result }
  | _, _ => return e

/-- What an elector does in the course of an election. -/
def run (e : Elector) (course : List Occurrence) : Reported Elector :=
  course.foldlM react e

/-- How an elector has ended, if it has. -/
def result? (e : Elector) : Option (Except Status.Error Unit) :=
  match e.phase with
  | .stopped result => some result
  | _ => none

end Elector

end IngressController.Election
