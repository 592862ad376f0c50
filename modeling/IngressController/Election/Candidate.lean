import IngressController.Election.Elector
import IngressController.Election.Manager
import IngressController.Ticker

/-!
# Candidates

A candidate is an elector together with its manager of the lease on an API server. It looks for the
lease when it starts and creates it if it is missing. From then on the manager acts when it has to,
and the elector looks at the holder of the lease at intervals, before the manager does if both are
due at the same time.
-/

set_option autoImplicit false

namespace IngressController.Election

open Api

/-- A candidate in an election. -/
structure Candidate where
  config : Config
  elector : Elector
  manager : Manager := {}
  /-- When the elector looks at the holder. -/
  ticker : Ticker
  /-- Whether the candidate has been told to end. -/
  cancelled : Bool := false
  /-- How the manager has ended, once it has. -/
  released : Option Ending := none

namespace Candidate

/-- A candidate that enters an election at a time. -/
def entering (config : Config) (leadership : Leadership) (now : Nat) : Candidate where
  config := config
  elector := { leadership }
  ticker := Ticker.start (max config.grace 1 * 1000) now

/-- The candidate after something has happened to its elector. -/
def react (c : Candidate) (o : Occurrence) : Reported Candidate := do
  return { c with elector := ← c.elector.react o }

/-- The holder of the lease, if the lease can be read. -/
def holder? (c : Candidate) (s : Server) : Option String :=
  match s.readLease c.config.location with
  | .ok lease => lease.map Lease.holderText
  | .error () => none

/-- Looks for the lease and creates it if it is missing. -/
def prepare (c : Candidate) (s : Server) : Occurrence × Server :=
  match s.readLease c.config.location with
  | .error () => (.unprepared "the lease cannot be read", s)
  | .ok (some _) => (.prepared, s)
  | .ok none =>
    match s.createLease c.config.listLocation c.config.name with
    | .error () => (.unprepared "the lease cannot be created", s)
    | .ok s => (.prepared, s)

/-- Lets the manager act and tells the elector what the manager tells, or that it never will tell
anything again. -/
def manage (c : Candidate) (now : Nat) (s : Server) : Reported (Candidate × Server) := do
  let (told, manager, s) := c.manager.look c.config c.elector.leadership.identity now s
  let c := { c with manager }
  match told, manager.activity with
  | some leading, _ => return (← c.react (.told leading (c.holder? s)), s)
  | none, .brokenDown =>
    return (← { c with released := some .brokenDown }.react (.abandoned "channel closed"), s)
  | none, _ => return (c, s)

/-- Lets the manager end. -/
def close (c : Candidate) (s : Server) : Candidate × Server :=
  let (ending, s) := c.manager.close c.config c.elector.leadership.identity s
  ({ c with released := some ending }, s)

/-- Does the next thing there is to do at a time, if there is any. -/
def step (c : Candidate) (now : Nat) (s : Server) : Reported (Option (Candidate × Server)) := do
  match c.elector.phase with
  | .preparing =>
    let (outcome, s) := c.prepare s
    return some (← c.react outcome, s)
  | .electing =>
    if c.cancelled then return some (← c.react .cancelled, s)
    else if c.ticker.isDue now then
      let c := { c with ticker := c.ticker.tickSkipping now }
      return some (← c.react (.looked (c.holder? s)), s)
    else if c.manager.isDue now then return some (← c.manage now s)
    else return none
  | .releasing _ =>
    match c.released with
    | some ending => return some (← c.react (.released ending), s)
    | none => if c.manager.canClose now then return some (c.close s) else return none
  | .stopped _ => return none

/-- Makes at most so many steps at a time, while there is something to do. -/
def stepTimes (now : Nat) : Nat → Candidate → Server → Reported (Candidate × Server)
  | 0, c, s => return (c, s)
  | times + 1, c, s => do
    match ← c.step now s with
    | some (c, s) => stepTimes now times c s
    | none => return (c, s)

/-- Does what there is to do at a time. Preparing, looking at the holder, acting on the lease and
giving it back all happen at most a few times at once. -/
def settle (now : Nat) (c : Candidate) (s : Server) : Reported (Candidate × Server) :=
  stepTimes now 50 c s

/-- When there is something to do next, after everything has been done that there is at a time. -/
def dueAt (c : Candidate) (now : Nat) : Option Nat :=
  match c.elector.phase with
  | .electing => some (((c.manager.dueAt now).map (min c.ticker.next)).getD c.ticker.next)
  | .releasing _ => c.manager.dueAt now
  | _ => none

/-- Tells a candidate to end. -/
def cancel (c : Candidate) : Candidate :=
  { c with cancelled := true }

/-- Lets time pass from one due time to the next, up to a target, and settles at each. -/
def pass (target : Nat) : Nat → Nat → Candidate → Server → Reported (Candidate × Server)
  | 0, _, c, s => return (c, s)
  | fuel + 1, now, c, s => do
    match c.dueAt now with
    | some time =>
      if target < time then return (c, s)
      else
        let (c, s) ← settle (max now time) c s
        pass target fuel (max now time) c s
    | none => return (c, s)

/-- Lets time pass up to a target. Once settled, a candidate is due only later. -/
def waitUntil (c : Candidate) (now target : Nat) (s : Server) : Reported (Candidate × Server) :=
  pass target (target - now + 1) now c s

end Candidate

end IngressController.Election
