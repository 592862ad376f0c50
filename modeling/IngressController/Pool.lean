import IngressController.Cancellation

/-!
# Batches of work in a pool

A pool of some width runs a batch of units of work with at most that many of them in flight. Units
start in the order of the batch, each as soon as there is room, and a unit that ends without a
result counts for nothing. The results come in the order in which the units end.

`Batch.advance` is one step of one unit in flight, so every order in which units can progress is a
list of such steps; `Pool.run` is the order in which the units take turns, each until it rests.

`Pool.runBatch` makes a unit of work for each of some items. Each unit is given a child of one
token, by which it can tell whether the batch has been cancelled.
-/

set_option autoImplicit false

namespace IngressController

variable {Q : Type} {A : Q → Type} {β σ : Type}

/-! ### Batches -/

/-- Where a unit of work stands. -/
inductive Slot (A : Q → Type) (β : Type) where
  | waiting (work : Program A (Option β))
  | running (work : Program A (Option β))
  | finished (result : Option β)

/-- Whether a unit is in flight. -/
def Slot.isRunning : Slot A β → Bool
  | running _ => true
  | _ => false

/-- Whether a unit has ended. -/
def Slot.isFinished : Slot A β → Bool
  | finished _ => true
  | _ => false

/-- A batch of units in order, and the results so far. -/
structure Batch (A : Q → Type) (β : Type) where
  slots : List (Slot A β)
  results : List β := []

namespace Batch

/-- A batch of which no unit has started. -/
def ofWork (work : List (Program A (Option β))) : Batch A β where
  slots := work.map .waiting

/-- The number of units in flight. -/
def inFlight (b : Batch A β) : Nat :=
  b.slots.countP Slot.isRunning

/-- Whether every unit has ended. -/
def isFinished (b : Batch A β) : Bool :=
  b.slots.all Slot.isFinished

/-- The positions of the units in flight. -/
def running (b : Batch A β) : List Nat :=
  (List.range b.slots.length).filter fun position => b.slots[position]?.any Slot.isRunning

/-- Starts the first units that wait, as many as there is room for, and names their positions. -/
def startSlots (room position : Nat) : List (Slot A β) → List (Slot A β) × List Nat
  | [] => ([], [])
  | slot :: rest =>
    match slot, room with
    | .waiting work, room + 1 =>
      let (slots, started) := startSlots room (position + 1) rest
      (.running work :: slots, position :: started)
    | slot, room =>
      let (slots, started) := startSlots room (position + 1) rest
      (slot :: slots, started)

/-- Starts units until `width` of them are in flight, and names their positions. -/
def fill (width : Nat) (b : Batch A β) : Batch A β × List Nat :=
  let (slots, started) := startSlots (width - b.inFlight) 0 b.slots
  ({ b with slots }, started)

/-- Ends the unit at a position. -/
def finish (b : Batch A β) (position : Nat) (result : Option β) : Batch A β where
  slots := b.slots.set position (.finished result)
  results := b.results ++ result.toList

/-- Sets what the unit at a position in flight has left to do. -/
def goOn (b : Batch A β) (position : Nat) (work : Program A (Option β)) : Batch A β where
  slots := b.slots.set position (.running work)
  results := b.results

/-- One step of the unit at a position, if it is in flight. -/
def advance (answers : Program.Answers A σ) (b : Batch A β) (position : Nat) :
    StateT σ Reported (Batch A β) :=
  match b.slots[position]? with
  | some (.running (.done result)) => pure (b.finish position result)
  | some (.running work) => do
    let work ← work.step answers
    pure (b.goOn position work)
  | _ => pure b

/-- Runs the unit at a position, if it is in flight, until it ends or rests, and tells whether it
rests. -/
def poll (answers : Program.Answers A σ) (b : Batch A β) (position : Nat) :
    StateT σ Reported (Batch A β × Bool) :=
  match b.slots[position]? with
  | some (.running work) => do
    match ← work.poll answers with
    | .inl result => pure (b.finish position result, false)
    | .inr next => pure (b.goOn position next, true)
  | _ => pure (b, false)

end Batch

/-! ### Pools -/

/-- A pool that runs at most `width` units at a time. -/
structure Pool where
  width : Nat
  width_pos : 0 < width

namespace Pool

/-- A pool of a width, at least one. -/
def ofWidth (width : Nat) : Pool where
  width := max width 1
  width_pos := Nat.lt_of_lt_of_le Nat.zero_lt_one (Nat.le_max_right ..)

/-- Takes turns: the units in `ready` are polled in this turn, those in `resting` in the next. A
unit that starts joins the turn. -/
def takeTurns (pool : Pool) (answers : Program.Answers A σ) :
    Nat → Batch A β → List Nat → List Nat → StateT σ Reported (Batch A β)
  | 0, b, _, _ => pure b
  | fuel + 1, b, ready, resting =>
    let (b, started) := b.fill pool.width
    match ready ++ started, resting with
    | [], [] => pure b
    | [], resting => pool.takeTurns answers fuel b resting []
    | position :: ready, resting => do
      let (b, rests) ← b.poll answers position
      pool.takeTurns answers fuel b ready (if rests then resting ++ [position] else resting)

/-- Runs a batch to its end, of which some units may be in flight and that rests at most `rests`
times. -/
def finish (pool : Pool) (answers : Program.Answers A σ) (rests : Nat) (b : Batch A β) :
    StateT σ Reported (List β) := do
  let b ← pool.takeTurns answers (2 * (b.slots.length + rests) + 1) b b.running []
  pure b.results

/-- Runs units of work that rest at most `rests` times in all, and gives their results in the order
in which they end. Each poll ends a unit or one of its rests, and no two turns begin without a poll
between them. -/
def run (pool : Pool) (answers : Program.Answers A σ) (rests : Nat)
    (work : List (Program A (Option β))) : StateT σ Reported (List β) := do
  let b ← pool.takeTurns answers (2 * (work.length + rests) + 1) (Batch.ofWork work) [] []
  pure b.results

end Pool

/-! ### Work on items -/

/-- What a unit of work is given to tell whether it is cancelled. -/
structure WorkUnit where
  token : CancellationToken

/-- Asks whether the unit is cancelled. -/
def WorkUnit.isCancelled (u : WorkUnit) : Program (WorkAsk.Answer A) Bool :=
  Program.request (WorkAsk.isCancelled u.token)

/-- The units of work on some items, each with a child of the token. -/
def unitsOf {ι : Type} (token : CancellationToken) (items : List ι)
    (work : WorkUnit → ι → Program (WorkAsk.Answer A) (Option β)) :
    List (Program (WorkAsk.Answer A) (Option β)) :=
  items.mapIdx fun number item => work { token := .child token number } item

/-- Runs the work on some items that rests at most `rests` times in all, and gives its results. -/
def Pool.runBatch {ι : Type} (pool : Pool) (answers : Program.Answers A σ) (rests : Nat)
    (token : CancellationToken) (items : List ι)
    (work : WorkUnit → ι → Program (WorkAsk.Answer A) (Option β)) :
    StateT (Cancelled × σ) Reported (List β) :=
  pool.run (WorkAsk.answer answers) rests (unitsOf token items work)

end IngressController
