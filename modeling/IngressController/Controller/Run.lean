import IngressController.Controller.Basic

/-!
# The controller in the course of time

Time moves from one due time to the next, and at each the tasks take turns until none of them has
anything to do.
-/

set_option autoImplicit false

namespace IngressController.Controller

/-- The step of the first task that has something to do. -/
def stepFirst (now : Nat) (c : Controller) : List Task → Reported (Option Controller)
  | [] => return none
  | task :: rest => do
    match ← step now task c with
    | some c => return some c
    | none => stepFirst now c rest

/-- Makes at most so many steps at a time, while there is something to do. -/
def stepTimes (now : Nat) : Nat → Controller → Reported Controller
  | 0, c => return c
  | times + 1, c => do
    match ← stepFirst now c c.turns with
    | some c => stepTimes now times c
    | none => return c

/-- A number of steps that is enough for what there is to do at one time: a thousand for each object
on the server, which few requests are about, and a thousand for everything else. -/
def stepsAtOnce (c : Controller) : Nat :=
  1000 * (c.site.server.size + 1)

/-- Does what there is to do at a time. -/
def settle (now : Nat) (c : Controller) : Reported Controller :=
  c.stepTimes now c.stepsAtOnce

/-- The times at which a task has something to do, after everything has been done that there is at
a time. -/
def dueTimes (now : Nat) (c : Controller) : List Nat :=
  let passes (tasks : StatusTasks) : List Nat :=
    match tasks.passes.run with
    | .running ticker => [ticker.next]
    | _ => []
  let tasks := c.status.toList
  c.reflectors.filterMap (·.listAt) ++ c.ticker.toList.map (·.next) ++ tasks.flatMap passes ++
    tasks.filterMap fun tasks => tasks.candidate.dueAt now

/-- When there is something to do next. -/
def dueAt (now : Nat) (c : Controller) : Option Nat :=
  (c.dueTimes now).min?

/-- Lets time pass from one due time to the next, up to a target, and settles at each. -/
def pass (target : Nat) : Nat → Nat → Controller → Reported Controller
  | 0, _, c => return c
  | fuel + 1, now, c => do
    match c.dueAt now with
    | some time =>
      if target < time then return c
      else
        let c ← c.settle (max now time)
        pass target fuel (max now time) c
    | none => return c

/-- Lets time pass up to a target. Once settled, a controller is due only later. -/
def waitUntil (now target : Nat) (c : Controller) : Reported Controller :=
  pass target (target - now + 1) now c

end IngressController.Controller
