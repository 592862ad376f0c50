import IngressController.Api.Server
import IngressController.Election.Elector

/-!
# Taking, renewing and giving back a lease

A manager keeps in mind the lease as it has last read it, and reads it anew when that lease has
ended and after every change that it makes itself. It takes an untouched lease at once. One that has
ended, or that is free but shows traces of a holder, it frees and takes a second later; one that
another holds it leaves alone until its end. Its own lease it renews some time before the end, and
only then sees that another has taken it. Whether it holds the lease it tells when that changes.

When a request fails it waits, longer each time until it has something to tell, and cannot be told
to close meanwhile. Over a lease whose end cannot be counted it breaks down. Closing frees the lease
unless it is another's that has not ended, and reads it once more.
-/

set_option autoImplicit false

namespace IngressController.Election

open Api

/-- What a manager does next. -/
inductive Activity where
  /-- It looks at the lease at once. -/
  | looking
  /-- It leaves the lease to another until a time. -/
  | waiting (time : Nat)
  /-- It holds the lease and renews it at a time. -/
  | holding (time : Nat)
  /-- It has freed the lease, or has failed to, and goes on at a time. -/
  | freeing (time : Nat) (failed : Bool)
  /-- It waits after a request has failed. -/
  | backingOff (time : Nat)
  | brokenDown
  deriving DecidableEq

/-- Why a manager cannot do what it is about to. -/
inductive Trouble where
  /-- A request has failed. -/
  | failure
  /-- The end of the lease cannot be counted. -/
  | breakdown
  deriving DecidableEq

/-- How a manager ends that can do what it is about to, or not. -/
def Trouble.ending : Option Trouble → Ending
  | none => .clean
  | some .failure => .failed
  | some .breakdown => .brokenDown

/-- A manager. -/
structure Manager where
  /-- The lease as it was last read. -/
  seen : Lease := {}
  /-- Whether it has told that it holds the lease. -/
  leading : Bool := false
  activity : Activity := .looking
  /-- The number of times that requests have failed since the manager has told something. -/
  failures : Nat := 0
  deriving DecidableEq

namespace Manager

/-- When a manager acts next. -/
def dueAt (m : Manager) (now : Nat) : Option Nat :=
  match m.activity with
  | .looking => some now
  | .waiting time | .holding time | .freeing time _ | .backingOff time => some time
  | .brokenDown => none

/-- Whether a manager acts at a time. -/
def isDue (m : Manager) (now : Nat) : Bool :=
  (m.dueAt now).any fun time => decide (time ≤ now)

/-- Whether a manager holds the lease, as far as it knows. -/
def holds (m : Manager) (identity : String) : Bool :=
  m.seen.holder == some identity

/-- The wait after so many failures, at most five seconds. -/
def backoff (failures : Nat) : Nat :=
  min 5000 (1000 * Nat.pow 2 failures)

/-- The manager after a request has failed. -/
def failed (m : Manager) (now : Nat) : Manager :=
  { m with activity := .backingOff (now + backoff m.failures), failures := m.failures + 1 }

/-- The manager in trouble. -/
def inTrouble (m : Manager) (now : Nat) : Trouble → Manager
  | .failure => m.failed now
  | .breakdown => { m with activity := .brokenDown }

/-- How long after it has freed a lease a manager takes it. -/
def takeAfter : Nat := 1000

/-- The time that comes so many milliseconds before the end of the lease, but no past one. -/
def timeBeforeEnd (m : Manager) (s : Server) (span now : Nat) : Nat :=
  match m.seen.end? with
  | some ending => now + ((ending - s.time) / 1000000 - span).toNat
  | none => now

/-! ### Requests -/

/-- Reads the lease. -/
def read (c : Config) (m : Manager) (s : Server) : Except Trouble Manager :=
  match s.readLease c.location with
  | .ok (some seen) => if seen.isCountable then .ok { m with seen } else .error .breakdown
  | _ => .error .failure

/-- Reads the lease if the one that was last read has ended. -/
def refresh (c : Config) (m : Manager) (s : Server) : Except Trouble Manager :=
  if m.seen.isValid s.time then .ok m else m.read c s

/-- Changes the lease and reads it anew. A change stays also when reading fails. -/
def change (c : Config) (m : Manager) (s : Server) (patch : Json) :
    Except Trouble Manager × Server :=
  match s.changeLease c.location patch with
  | .error () => (.error .failure, s)
  | .ok s => (m.read c s, s)

/-! ### Acting -/

/-- Changes the lease and looks at it again at once. -/
def changeAndLook (c : Config) (now : Nat) (m : Manager) (s : Server) (patch : Json) :
    Manager × Server :=
  match m.change c s patch with
  | (.error trouble, s) => (m.inTrouble now trouble, s)
  | (.ok m, s) => ({ m with activity := .looking }, s)

/-- Frees the lease and goes on later. -/
def free (c : Config) (now : Nat) (m : Manager) (s : Server) : Manager × Server :=
  match m.change c s Lease.freeing with
  | (.error .breakdown, s) => (m.inTrouble now .breakdown, s)
  | (.error .failure, s) => ({ m with activity := .freeing (now + takeAfter) true }, s)
  | (.ok m, s) => ({ m with activity := .freeing (now + takeAfter) false }, s)

/-- Acts on a lease of which it has been told whether the manager holds it. -/
def act (c : Config) (identity : String) (now : Nat) (m : Manager) (s : Server) :
    Manager × Server :=
  if m.holds identity then
    ({ m with activity := .holding (m.timeBeforeEnd s c.renewBefore now) }, s)
  else if m.seen.isUntouched then
    m.changeAndLook c now s (Lease.taking identity s.clock c.validFor)
  else if m.seen.holder.isSome && m.seen.isValid s.time then
    ({ m with activity := .waiting (m.timeBeforeEnd s 0 now) }, s)
  else m.free c now s

/-- Looks at the lease, and acts on it unless there is something to tell. -/
def goOn (c : Config) (identity : String) (now : Nat) (m : Manager) (s : Server) :
    Option Bool × Manager × Server :=
  match m.refresh c s with
  | .error trouble => (none, m.inTrouble now trouble, s)
  | .ok m =>
    let holds := m.holds identity
    if holds = m.leading then (none, m.act c identity now s)
    else (some holds, { m with activity := .looking, leading := holds, failures := 0 }, s)

/-- Does what is due. What the manager tells comes with it: whether it holds the lease, if that has
changed. -/
def look (c : Config) (identity : String) (now : Nat) (m : Manager) (s : Server) :
    Option Bool × Manager × Server :=
  match m.activity with
  | .holding _ => (none, m.changeAndLook c now s (Lease.renewal s.clock c.validFor))
  | .freeing _ true => (none, m.failed now, s)
  | .brokenDown => (none, m, s)
  | _ => m.goOn c identity now s

/-! ### Closing -/

/-- Whether a manager can be told to close. -/
def canClose (m : Manager) (now : Nat) : Bool :=
  match m.activity with
  | .backingOff time => decide (time ≤ now)
  | _ => true

/-- Frees the lease unless it is another's that has not ended, and reads it once more. -/
def release (c : Config) (identity : String) (m : Manager) (s : Server) :
    Except Trouble Manager × Server :=
  match m.refresh c s with
  | .error trouble => (.error trouble, s)
  | .ok m =>
    if m.holds identity || !m.seen.isValid s.time then m.change c s Lease.freeing
    else (m.read c s, s)

/-- Lets a manager end. -/
def close (c : Config) (identity : String) (m : Manager) (s : Server) : Ending × Server :=
  match m.release c identity s with
  | (.error trouble, s) => (Trouble.ending (some trouble), s)
  | (.ok _, s) => (Trouble.ending none, s)

end Manager

end IngressController.Election
