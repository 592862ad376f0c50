import IngressController.Pool
import IngressController.Status.Update
import IngressController.Text.Numeral
import IngressController.Text.Quoted

/-!
# Passes and the withdrawal

A pass publishes the running addresses on all managed Ingresses, if the controller leads. When it
shuts down, the last pod of the controller withdraws them: it publishes an empty list. Both first
decide on the updates to make and then make them in a pool.

A pass that is under way goes on by steps, each of which makes at most one request. Between two
steps anything can happen, so every way in which a pass and the rest of the controller can take
turns is an order of such steps.
-/

set_option autoImplicit false

namespace IngressController.Status

open Object

/-- Everything that a pass goes by. -/
structure Setting where
  config : Config := {}
  pod : PodDetails
  custom : CustomEntries := fun _ => none

/-- The pool of the updates. -/
def updatePool : Pool := Pool.ofWidth 10

/-- What a pass or a withdrawal decides on: the updates to make. -/
abbrev Decision : Type := Task (Except Error (List Update))

/-- Decides on the updates of a pass. -/
def decidePass (s : Setting) : Decision := do
  if ← Program.request Ask.shuttingDown then
    Program.log .debug "skipping Ingress status update (shutting down in progress)"
    return .ok []
  if !(← Program.request Ask.leading) then
    Program.log .debug "skipping Ingress status update (I am not the current leader)"
    return .ok []
  match ← runningAddresses s.config s.pod with
  | .error e => return .error e
  | .ok addresses => return .ok (← updates s.config s.custom .endOfPasses (entriesOf addresses))

/-- Decides on the updates of the withdrawal. -/
def decideWithdrawal (s : Setting) : Task (List Update) := do
  if !(← Program.request Ask.leading) then return []
  if !s.config.updateOnShutdown then
    Program.log .warn "skipping update of status of Ingress rules"
    return []
  Program.log .info "updating status of Ingress rules (remove)"
  match ← runningAddresses s.config s.pod with
  | .error e =>
    Program.log .error ("error obtaining running IPs: " ++ e.message)
    return []
  | .ok addresses =>
    if 1 < addresses.length then
      Program.log .info
        ("leaving status update for next leader (" ++ Text.decimal addresses.length ++ ")")
      return []
    if ← hasOtherPods s.pod then
      Program.log .info ("skipping Ingress status update (multiple pods running - " ++
        "another one will be elected as master)")
      return []
    Program.log .info
      ("removing address from ingress status (" ++ Text.quotedList addresses ++ ")")
    updates s.config s.custom .caller []

/-! ### In one go -/

variable {σ : Type}

/-- Makes updates in the pool. No update rests, so each ends in its first turn. -/
def runUpdates (answers : Program.Answers Ask.Answer σ) (us : List Update) :
    StateT σ Reported (List UpdateOutcome) :=
  updatePool.run answers 0 us

/-- One pass. -/
def runPass (answers : Program.Answers Ask.Answer σ) (s : Setting) :
    StateT σ Reported (Except Error (List UpdateOutcome)) := do
  match ← (decidePass s).run answers with
  | .error e => return .error e
  | .ok us => return .ok (← runUpdates answers us)

/-! ### Step by step -/

/-- A pass, or the withdrawal, that is under way. -/
inductive Pass where
  | deciding (decision : Decision)
  | updating (batch : Batch Ask.Answer UpdateOutcome)
  | ended (result : Except Error (List UpdateOutcome))

namespace Pass

/-- A pass that begins. -/
def publishing (s : Setting) : Pass :=
  deciding (decidePass s)

/-- The withdrawal when it begins. It fails in nothing. -/
def withdrawing (s : Setting) : Pass :=
  deciding do return .ok (← decideWithdrawal s)

/-- Whether a pass has ended. -/
def isEnded : Pass → Bool
  | ended _ => true
  | _ => false

/-- The position of the first update in flight. -/
def firstInFlight : Pass → Nat
  | updating batch => batch.slots.findIdx Slot.isRunning
  | _ => 0

/-- One step: of the decision, or of the update at a position. A step that ends an update makes room
for the next one. -/
def advance (answers : Program.Answers Ask.Answer σ) (position : Nat) :
    Pass → StateT σ Reported Pass
  | deciding (.done (.error e)) => pure (ended (.error e))
  | deciding (.done (.ok us)) => pure (updating ((Batch.ofWork us).fill updatePool.width).1)
  | deciding decision => do
    let decision ← decision.step answers
    return deciding decision
  | updating batch =>
    if batch.isFinished then pure (ended (.ok batch.results))
    else do
      let batch ← batch.advance answers position
      return updating (batch.fill updatePool.width).1
  | ended result => pure (ended result)

/-- Goes on with a pass to its end. -/
def finish (answers : Program.Answers Ask.Answer σ) :
    Pass → StateT σ Reported (Except Error (List UpdateOutcome))
  | deciding decision => do
    match ← decision.run answers with
    | .error e => return .error e
    | .ok us => return .ok (← runUpdates answers us)
  | updating batch => .ok <$> updatePool.finish answers 0 batch
  | ended result => pure result

end Pass

end IngressController.Status
