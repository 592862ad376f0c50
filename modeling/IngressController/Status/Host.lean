import IngressController.Leadership
import IngressController.Queue
import IngressController.Status.Pass
import IngressController.Ticker

/-!
# The run of the passes

A host runs the passes of one controller: a timer and others add triggers to its queue, and each
trigger that is taken makes a pass. It knows the leadership and leaves everything else to its
surroundings, which answer calls to the cluster and list the watched Ingresses. When the host shuts
down, no further trigger is taken, updates of a pass that have not begun are cancelled, and the
addresses are withdrawn if this is the last pod.

The run and the withdrawal go on by steps. A pass can still be under way when the withdrawal begins.
-/

set_option autoImplicit false

namespace IngressController.Status

open Object

/-- How the surroundings of a host answer, from a state of type `κ`. -/
structure Surroundings (κ : Type) where
  call : (c : Cluster.Call) → StateT κ Reported c.Outcome
  /-- The Ingresses that are watched. -/
  watched : κ → List Ingress
  /-- Whether updates of a batch that was asked for from outside are cancelled. -/
  callerCancelled : κ → Bool := fun _ => false

/-- How far the run of the passes is. -/
inductive Run where
  | notStarted
  | running (ticker : Ticker)
  | ended
  deriving DecidableEq

/-- The state of a host and its surroundings. -/
structure Host (κ : Type) where
  around : κ
  leadership : Leadership
  queue : Queue := {}
  /-- Whether the passes have been told to end. -/
  passesEnd : Bool := false
  run : Run := .notStarted
  /-- The pass under way. -/
  pass : Option Pass := none
  /-- The withdrawal, when it has begun. -/
  withdrawal : Option Pass := none

namespace Host

variable {κ : Type}

/-- A host in other surroundings. -/
def moveTo {κ' : Type} (h : Host κ) (around : κ') : Host κ' where
  around := around
  leadership := h.leadership
  queue := h.queue
  passesEnd := h.passesEnd
  run := h.run
  pass := h.pass
  withdrawal := h.withdrawal

/-- Changes what is around the host. -/
def onAround {α : Type} (f : StateT κ Reported α) : StateT (Host κ) Reported α := fun h =>
  let r := f.run h.around
  { value := (r.value.1, { h with around := r.value.2 }), notes := r.notes }

/-- How a host answers the programs that keep the status. -/
def answers (s : Surroundings κ) : Program.Answers Ask.Answer (Host κ)
  | .call c => onAround (s.call c)
  | .ingresses => fun h => pure (s.watched h.around, h)
  | .leading => fun h => pure (h.leadership.leading, h)
  | .shuttingDown => fun h => pure (h.queue.shuttingDown, h)
  | .cancelled .endOfPasses => fun h => pure (h.passesEnd, h)
  | .cancelled .caller => fun h => pure (s.callerCancelled h.around, h)

/-- Adds a trigger; tells whether it was accepted. The run looks at the queue anew each time, so
there is nobody to notify. -/
def enqueue : StateM (Host κ) Bool := fun h =>
  let (accepted, queue, _) := h.queue.enqueue none
  (accepted, { h with queue })

/-! ### The run -/

/-- Begins the run: the first tick is due at once. -/
def start (setting : Setting) (now : Nat) : StateT (Host κ) Reported Unit := do
  Program.noting (.log .info "starting Ingress status sync")
  modify fun h => { h with run := .running (Ticker.start setting.config.interval now) }

/-- Reports how a pass of the run went. -/
def reportPass : Except Error (List UpdateOutcome) → Reported Unit
  | .ok _ => Reported.measure (.statusSync true 0)
  | .error e => do
    Reported.measure (.statusSync false 0)
    Reported.log .warn ("error syncing Ingress status: " ++ e.message)

/-- Takes a tick that is due, which adds a trigger. -/
def takeTick (now : Nat) (h : Host κ) : Host κ :=
  match h.run with
  | .running ticker =>
    if ticker.isDue now then
      let (_, h) := enqueue { h with run := .running (ticker.tickDelaying now) }
      h
    else h
  | _ => h

/-- Whether the run has something to do at a time: a pass, a tick that is due, a pending trigger or
the end. -/
def isDue (now : Nat) (h : Host κ) : Bool :=
  match h.run with
  | .running ticker =>
    h.pass.isSome || h.passesEnd || h.queue.shuttingDown || ticker.isDue now || h.queue.pending
  | _ => false

/-- Goes on between two passes: ends, or begins the next pass if there is a trigger. -/
def goOn (setting : Setting) (now : Nat) (h : Host κ) : Host κ :=
  if h.passesEnd then { h with run := .ended }
  else
    let h := h.takeTick now
    match h.queue.take? with
    | (some true, queue) => { h with queue, pass := some (.publishing setting) }
    | (some false, queue) => { h with queue, run := .ended }
    | (none, queue) => { h with queue }

/-- A step of the run at a time when it has something to do. If a pass makes its updates, the one at
a position goes on. -/
def step (s : Surroundings κ) (setting : Setting) (now position : Nat) :
    StateT (Host κ) Reported Unit := do
  let h ← get
  match h.pass with
  | none => set (h.goOn setting now)
  | some (.ended result) =>
    StateT.lift (reportPass result)
    set { h with pass := none }
  | some pass =>
    let pass ← pass.advance (answers s) position
    modify fun h => { h with pass := some pass }

/-- The position of the update that goes on next: the first in flight. -/
def turn (h : Host κ) : Nat :=
  (h.pass.map Pass.firstInFlight).getD 0

/-- Goes on to the end of the pass under way, or from one pass to the next. -/
def proceed (s : Surroundings κ) (setting : Setting) (now : Nat) :
    StateT (Host κ) Reported Unit := do
  let h ← get
  match h.pass with
  | none => set (h.goOn setting now)
  | some pass =>
    let result ← pass.finish (answers s)
    StateT.lift (reportPass result)
    modify fun h => { h with pass := none }

/-- Goes on, at most so many times, while there is something to do at a time. -/
def proceedTimes (s : Surroundings κ) (setting : Setting) (now : Nat) :
    Nat → StateT (Host κ) Reported Unit
  | 0 => pure ()
  | times + 1 => do
    if (← get).isDue now then
      proceed s setting now
      proceedTimes s setting now times

/-- Does what there is to do at a time. Ticks are not late for five milliseconds, so at most six of
them are taken at one time; each makes a pass, and beside these there can be a pass under way and
the end of the run. -/
def settle (s : Surroundings κ) (setting : Setting) (now : Nat) : StateT (Host κ) Reported Unit :=
  proceedTimes s setting now 14

/-! ### Shutting down -/

/-- Tells the passes to end. -/
def endPasses (h : Host κ) : Host κ :=
  { h with queue := (h.queue.shutdown none).1, passesEnd := true }

/-- Begins to shut down: the passes are told to end and the withdrawal begins. -/
def beginShutdown (setting : Setting) (h : Host κ) : Host κ :=
  { h.endPasses with withdrawal := some (.withdrawing setting) }

/-- Whether the withdrawal is under way. -/
def isWithdrawing (h : Host κ) : Bool :=
  h.withdrawal.any fun pass => !pass.isEnded

/-- A step of the withdrawal. If it makes its updates, the one at a position goes on. -/
def stepWithdrawal (s : Surroundings κ) (position : Nat) : StateT (Host κ) Reported Unit := do
  match (← get).withdrawal with
  | none => pure ()
  | some pass =>
    let pass ← pass.advance (answers s) position
    modify fun h => { h with withdrawal := some pass }

/-- The position of the update of the withdrawal that goes on next: the first in flight. -/
def withdrawalTurn (h : Host κ) : Nat :=
  (h.withdrawal.map Pass.firstInFlight).getD 0

/-- Goes on with the withdrawal to its end. -/
def finishWithdrawal (s : Surroundings κ) : StateT (Host κ) Reported Unit := do
  match (← get).withdrawal with
  | none => pure ()
  | some pass =>
    let result ← pass.finish (answers s)
    modify fun h => { h with withdrawal := some (.ended result) }

/-- Shuts the host down. -/
def shutdown (s : Surroundings κ) (setting : Setting) : StateT (Host κ) Reported Unit := do
  modify (beginShutdown setting)
  finishWithdrawal s

/-! ### Leadership -/

/-- Gives or takes the leadership, and reports the change. -/
def setLeading (leading : Bool) : StateT (Host κ) Reported Unit := do
  let h ← get
  let (leadership, events) := h.leadership.setLeading leading
  set { h with leadership }
  StateT.lift (Leadership.reportAll events)

end Host

end IngressController.Status
