import IngressController.Proofs.Status.Run

/-!
# `IngressController.Proofs.Status.RunEvents`: the run of the passes and a shutdown that take turns

The run is a loop. Between two passes it waits for one of three things: the passes are told to end,
a tick is due, or the queue has a trigger or has been shut down. If several of them are there, it
takes any. A shutdown marks the queue, then tells the passes to end and then begins to withdraw the
addresses, and the run may go on in between.

A `RunEvent` is one thing that happens to a host, so every way in which the two take turns with each
other and with everything else is a list of events. To take a trigger is one event: the queue does
not change between its look at the mark and its look at the trigger.

* `Host.exists_undergoAll_step` and `Host.undergoAll_beginShutdown`: the steps of the run and the
  beginning of a shutdown are such events.
* `Host.PassSteps`: all that an event can do to the pass of a host, one constructor for each.
* `Host.Retains`: the mark and the order to end last, and a marked queue keeps its trigger.
* `PassInvariant.Lasts`: an invariant that says no more of a host than what lasts. It holds after
  all events if no new pass begins.
-/

set_option autoImplicit false

namespace IngressController.Status

/-- What the loop of the run waits for between two passes. -/
inductive Branch where
  /-- The passes are told to end. -/
  | stop
  /-- A tick is due. -/
  | tick
  /-- The queue has a trigger, or it has been shut down. -/
  | trigger

/-- What can happen to a host that runs passes. -/
inductive RunEvent (κ : Type) where
  /-- The run begins. -/
  | begins (now : Nat)
  /-- The loop of the run looks at a branch. -/
  | selects (branch : Branch) (now : Nat)
  /-- The pass under way makes a step, or is put away if it has ended. -/
  | steps (position : Nat)
  /-- Somebody adds a trigger. -/
  | triggers
  /-- The surroundings and the leadership change. -/
  | elsewhere (around : κ) (leadership : Leadership)
  /-- A shutdown marks the queue. -/
  | marks
  /-- A shutdown that has marked the queue tells the passes to end. -/
  | cancels
  /-- A shutdown that has told the passes to end begins to withdraw the addresses. -/
  | withdraws
  /-- The withdrawal makes a step. -/
  | withdrawal (position : Nat)

namespace Host

variable {κ : Type}

/-- The host after the loop of the run has looked at a branch. -/
def select (setting : Setting) (now : Nat) (h : Host κ) : Branch → Host κ
  | .stop => if h.passesEnd then { h with run := .ended } else h
  | .tick => h.takeTick now
  | .trigger =>
    match h.queue.take? with
    | (some true, queue) => { h with queue, pass := some (.publishing setting) }
    | (some false, queue) => { h with queue, run := .ended }
    | (none, queue) => { h with queue }

/-- Whether the loop of the run looks at its branches: it has begun, it has not ended and no pass is
under way. -/
def isSelecting (h : Host κ) : Bool :=
  match h.run with
  | .running _ => h.pass.isNone
  | _ => false

section Events

variable (s : Surroundings κ) (setting : Setting)

/-- A host after an event. -/
def undergo (h : Host κ) : RunEvent κ → Host κ
  | .begins now => if h.run = .notStarted then ((start setting now).run h).value.2 else h
  | .selects branch now => if h.isSelecting then h.select setting now branch else h
  | .steps position => if h.pass.isSome then ((step s setting 0 position).run h).value.2 else h
  | .triggers => (enqueue.run h).2
  | .elsewhere around leadership => { h with around, leadership }
  | .marks => { h with queue := (h.queue.shutdown none).1 }
  | .cancels => if h.queue.shuttingDown then { h with passesEnd := true } else h
  | .withdraws =>
    if h.passesEnd && h.withdrawal.isNone then { h with withdrawal := some (.withdrawing setting) }
    else h
  | .withdrawal position => ((stepWithdrawal s position).run h).value.2

/-- A host after some events. -/
def undergoAll (h : Host κ) (es : List (RunEvent κ)) : Host κ :=
  es.foldl (undergo s setting) h

end Events

variable {s : Surroundings κ} {setting : Setting} {h : Host κ}

/-- What every event keeps, all events keep. -/
theorem undergoAll_invariant {I : Host κ → Prop}
    (hstep : ∀ {h : Host κ} (e : RunEvent κ), I h → I (h.undergo s setting e))
    (es : List (RunEvent κ)) (hh : I h) : I (h.undergoAll s setting es) := by
  induction es generalizing h with
  | nil => exact hh
  | cons e es ih => exact ih (hstep e hh)

/-! ### The steps of the run and of a shutdown -/

/-- Between two passes the run goes on by the first branch, or by the other two in their order. -/
theorem goOn_eq_select (setting : Setting) (now : Nat) (h : Host κ) :
    h.goOn setting now
      = if h.passesEnd then h.select setting now .stop
        else (h.select setting now .tick).select setting now .trigger := by
  unfold goOn select
  split
  · rfl
  · rfl

/-- A tick is taken between two passes as long as the run goes on, and leaves it there. -/
theorem isSelecting_takeTick (now : Nat) (h : Host κ) :
    (h.takeTick now).isSelecting = h.isSelecting := by
  unfold takeTick
  split
  · next ticker hrun =>
      split
      · show h.pass.isNone = h.isSelecting
        rw [isSelecting, hrun]
      · rfl
  · rfl

/-- A step of the run is made of such events. -/
theorem exists_undergoAll_step (s : Surroundings κ) (setting : Setting) (now position : Nat)
    (hrun : ∃ ticker, h.run = .running ticker) :
    ∃ es, h.undergoAll s setting es = ((step s setting now position).run h).value.2 := by
  obtain ⟨ticker, hrun⟩ := hrun
  cases hpass : h.pass with
  | none =>
      have hselecting : h.isSelecting = true := by
        rw [isSelecting, hrun, hpass]
        rfl
      rw [value_step_none hpass, goOn_eq_select]
      split
      · exact ⟨[.selects .stop now], if_pos hselecting⟩
      · -- The tick comes first, so that its trigger is taken at once.
        refine ⟨[.selects .tick now, .selects .trigger now], ?_⟩
        have htick : h.undergo s setting (.selects .tick now) = h.takeTick now :=
          if_pos hselecting
        rw [undergoAll, List.foldl_cons, List.foldl_cons, List.foldl_nil, htick]
        exact if_pos ((isSelecting_takeTick now h).trans hselecting)
  | some p =>
      have hsome : h.pass.isSome = true := by
        rw [hpass]
        rfl
      refine ⟨[.steps position], (if_pos hsome).trans ?_⟩
      -- Only between two passes the time counts.
      obtain ⟨p, -, -, hvalue⟩ | ⟨-, -, hvalue⟩ := value_step_cases s setting hsome position
      · rw [hvalue, hvalue]
      · rw [hvalue, hvalue]

/-- A shutdown begins with three of them. -/
theorem undergoAll_beginShutdown (s : Surroundings κ) (setting : Setting)
    (hwithdrawal : h.withdrawal = none) :
    h.undergoAll s setting [.marks, .cancels, .withdraws] = h.beginShutdown setting := by
  obtain ⟨around, leadership, queue, passesEnd, run, pass, withdrawal⟩ := h
  obtain rfl : withdrawal = none := hwithdrawal
  rfl

/-! ### What an event does to the pass -/

/-- All that an event can do to the pass of a host. -/
inductive PassSteps (s : Surroundings κ) (setting : Setting) (h h' : Host κ) : Prop where
  | stays (hpass : h'.pass = h.pass)
  /-- A trigger is taken. No pass is under way, and the queue has not been shut down. -/
  | begins (hnone : h.pass = none) (hopen : h.queue.shuttingDown = false)
      (hpending : h.queue.pending = true) (hpass : h'.pass = some (.publishing setting))
  | goesOn {p : Pass} (hunder : h.pass = some p) (hp : p.isEnded = false) (position : Nat)
      (hhost : h' = ((p.advance (answers s) position).run h).value.2.put .pass
        ((p.advance (answers s) position).run h).value.1)
  | isPutAway {result : Except Error (List UpdateOutcome)}
      (hended : h.pass = some (.ended result)) (hpass : h'.pass = none)

/-- A branch does nothing to the pass, or a pass begins. -/
theorem passSteps_select (s : Surroundings κ) (hnone : h.pass = none) (branch : Branch)
    (now : Nat) : PassSteps s setting h (h.select setting now branch) := by
  cases branch with
  | stop =>
      refine .stays ?_
      rw [select]
      split <;> rfl
  | tick =>
      obtain ⟨queue, run, htick⟩ := h.exists_takeTick now
      refine .stays ?_
      rw [select, htick]
  | trigger =>
      -- The queue looks at its mark first, and then at its trigger.
      cases hdown : h.queue.shuttingDown with
      | true =>
          refine .stays ?_
          rw [select, Queue.take?, if_pos hdown]
      | false =>
          cases hpending : h.queue.pending with
          | true =>
              refine .begins hnone hdown hpending ?_
              rw [select, Queue.take?, hdown, hpending]
              rfl
          | false =>
              refine .stays ?_
              rw [select, Queue.take?, hdown, hpending]
              rfl

/-- A step of the withdrawal leaves the pass alone. -/
theorem pass_stepWithdrawal (s : Surroundings κ) (h : Host κ) (position : Nat) :
    ((stepWithdrawal s position).run h).value.2.pass = h.pass := by
  cases hp : h.withdrawal with
  | none =>
      obtain ⟨around, leadership, queue, passesEnd, run, pass, withdrawal⟩ := h
      obtain rfl : withdrawal = none := hp
      rfl
  | some p =>
      rw [value_stepWithdrawal hp]
      exact under_advance p position h .pass

/-- All that an event can do to the pass. -/
theorem passSteps_undergo (s : Surroundings κ) (setting : Setting) (h : Host κ) (e : RunEvent κ) :
    PassSteps s setting h (h.undergo s setting e) := by
  -- Only the loop and the steps of the pass itself have to do with the pass.
  cases e with
  | begins now =>
      refine .stays ?_
      rw [undergo]
      split <;> rfl
  | selects branch now =>
      rw [undergo]
      split
      · next hselecting =>
          -- The loop looks at its branches between two passes only.
          have hnone : h.pass = none := by
            rw [isSelecting] at hselecting
            split at hselecting
            · exact Option.isNone_iff_eq_none.mp hselecting
            · cases hselecting
          exact passSteps_select s hnone branch now
      · exact .stays rfl
  | steps position =>
      rw [undergo]
      split
      · next hsome =>
          obtain ⟨p, hpass, hp, hvalue⟩ | ⟨result, hpass, hvalue⟩ :=
            value_step_cases s setting hsome position
          · exact .goesOn hpass hp position (hvalue 0)
          · exact .isPutAway hpass (by rw [hvalue])
      · exact .stays rfl
  | triggers => exact .stays rfl
  | elsewhere around leadership => exact .stays rfl
  | marks => exact .stays rfl
  | cancels =>
      refine .stays ?_
      rw [undergo]
      split <;> rfl
  | withdraws =>
      refine .stays ?_
      rw [undergo]
      split <;> rfl
  | withdrawal position => exact .stays (pass_stepWithdrawal s h position)

/-! ### What lasts -/

/-- From one host to a later one the mark of the queue and the order to end last, and a marked queue
keeps its trigger. The order has not been given without the mark. -/
structure Retains (h h' : Host κ) : Prop where
  marked : h.queue.shuttingDown = true →
    h'.queue.shuttingDown = true ∧ h'.queue.pending = h.queue.pending
  ended : h.passesEnd = true → h'.passesEnd = true
  ordered : h'.passesEnd = true → h.passesEnd = true ∨ h.queue.shuttingDown = true

namespace Retains

theorem refl (h : Host κ) : h.Retains h :=
  ⟨fun hmarked => ⟨hmarked, rfl⟩, id, .inl⟩

/-- A marked queue keeps its trigger as long as only the queue looks after it. -/
theorem of_queue {h' : Host κ} (hpassesEnd : h'.passesEnd = h.passesEnd)
    (hqueue : h.queue.shuttingDown = true → h'.queue.shuttingDown = true
      ∧ h'.queue.pending = h.queue.pending) : h.Retains h' where
  marked := hqueue
  ended hended := hpassesEnd.trans hended
  ordered hended := .inl (hpassesEnd.symm.trans hended)

/-- All of it is a matter of the queue and the order to end. -/
theorem of_eq {h' : Host κ} (hqueue : h'.queue = h.queue) (hpassesEnd : h'.passesEnd = h.passesEnd) :
    h.Retains h' :=
  of_queue hpassesEnd fun hmarked => ⟨by rw [hqueue]; exact hmarked, by rw [hqueue]⟩

end Retains

/-- To answer a request gives no signal. -/
theorem signals_answer (q : Ask) (h : Host κ) :
    ((answers s q).run h).value.2.queue = h.queue
      ∧ ((answers s q).run h).value.2.passesEnd = h.passesEnd := by
  cases q with
  | cancelled token => cases token <;> exact ⟨rfl, rfl⟩
  | _ => exact ⟨rfl, rfl⟩

/-- A step of a program gives no signal. -/
theorem signals_step {α : Type} (x : Task α) (h : Host κ) :
    ((x.step (answers s)).run h).value.2.queue = h.queue
      ∧ ((x.step (answers s)).run h).value.2.passesEnd = h.passesEnd := by
  cases x with
  | ask q next => exact signals_answer q h
  | _ => exact ⟨rfl, rfl⟩

/-- A step of an errand gives no signal. -/
theorem signals_next (e : Errand) (h : Host κ) :
    (e.next s h).2.queue = h.queue ∧ (e.next s h).2.passesEnd = h.passesEnd := by
  have hstep := signals_step (s := s) (e.stage.program e.job) h
  rw [Stage.step_program] at hstep
  exact hstep

/-- A step of a pass gives no signal. -/
theorem signals_advance (p : Pass) (position : Nat) (h : Host κ) :
    ((p.advance (answers s) position).run h).value.2.queue = h.queue
      ∧ ((p.advance (answers s) position).run h).value.2.passesEnd = h.passesEnd := by
  refine Pass.advance_state (I := fun h' : Host κ => h'.queue = h.queue
    ∧ h'.passesEnd = h.passesEnd) (fun q h' hh' => ?_) p position ⟨rfl, rfl⟩
  obtain ⟨hqueue, hpassesEnd⟩ := signals_answer (s := s) q h'
  exact ⟨hqueue.trans hh'.1, hpassesEnd.trans hh'.2⟩

/-- To add a trigger changes nothing else, and a queue that has been shut down accepts none. -/
theorem retains_enqueue {h' : Host κ} (hqueue : h'.queue = (h.queue.enqueue none).2.1)
    (hpassesEnd : h'.passesEnd = h.passesEnd) : h.Retains h' := by
  refine .of_queue hpassesEnd fun hmarked => ?_
  have hrefused : h.queue.enqueue none = (false, h.queue, none) := if_pos hmarked
  rw [hqueue, hrefused]
  exact ⟨hmarked, rfl⟩

theorem retains_takeTick (now : Nat) (h : Host κ) : h.Retains (h.takeTick now) := by
  unfold takeTick
  split
  · split
    · exact retains_enqueue (h := h) rfl rfl
    · exact .refl h
  · exact .refl h

theorem retains_select (branch : Branch) (now : Nat) : h.Retains (h.select setting now branch) := by
  cases branch with
  | stop =>
      rw [select]
      split
      · exact .of_eq rfl rfl
      · exact .refl h
  | tick => exact retains_takeTick now h
  | trigger =>
      refine .of_queue ?_ fun hmarked => ?_
      · rw [select]
        split <;> rfl
      · rw [select, Queue.take?, if_pos hmarked]
        exact ⟨hmarked, rfl⟩

/-- What has been signalled lasts, whatever happens. -/
theorem retains_undergo (s : Surroundings κ) (setting : Setting) (h : Host κ) (e : RunEvent κ) :
    h.Retains (h.undergo s setting e) := by
  cases e with
  | begins now =>
      rw [undergo]
      split <;> exact .of_eq rfl rfl
  | selects branch now =>
      rw [undergo]
      split
      · exact retains_select branch now
      · exact .refl h
  | steps position =>
      rw [undergo]
      split
      · next hsome =>
          obtain ⟨p, -, -, hvalue⟩ | ⟨result, -, hvalue⟩ :=
            value_step_cases s setting hsome position
          · rw [hvalue]
            exact .of_eq (signals_advance p position h).1 (signals_advance p position h).2
          · rw [hvalue]
            exact .of_eq rfl rfl
      · exact .refl h
  | triggers => exact retains_enqueue rfl rfl
  | elsewhere around leadership => exact .of_eq rfl rfl
  | marks => exact .of_queue rfl fun _ => ⟨rfl, rfl⟩
  | cancels =>
      rw [undergo]
      split
      · next hmarked => exact ⟨fun h => ⟨h, rfl⟩, fun _ => rfl, fun _ => .inr hmarked⟩
      · exact .refl h
  | withdraws =>
      rw [undergo]
      split <;> exact .of_eq rfl rfl
  | withdrawal position =>
      cases hp : h.withdrawal with
      | none =>
          obtain ⟨around, leadership, queue, passesEnd, run, pass, withdrawal⟩ := h
          obtain rfl : withdrawal = none := hp
          exact .of_eq rfl rfl
      | some p =>
          rw [undergo, value_stepWithdrawal hp]
          exact .of_eq (signals_advance p position h).1 (signals_advance p position h).2

end Host

/-! ### Invariants that last -/

namespace PassInvariant

variable {κ : Type} {s : Surroundings κ}

/-- An invariant says no more of a host than what lasts. -/
def Lasts (I : PassInvariant s) : Prop :=
  ∀ {h h' : Host κ}, h.Retains h' →
    (∀ d, I.deciding d h → I.deciding d h') ∧ ∀ es, I.making es h → I.making es h'

/-- The pass of a host satisfies an invariant, if there is one. -/
def HoldsIn (I : PassInvariant s) (h : Host κ) : Prop :=
  ∀ p, h.pass = some p → I.Holds p h

variable {I : PassInvariant s} {setting : Setting} {h : Host κ}

/-- An event keeps an invariant that lasts, if it holds of a pass that begins. -/
theorem HoldsIn.undergo (hh : I.HoldsIn h) (hlasts : I.Lasts) (e : RunEvent κ)
    (hbegins : h.queue.shuttingDown = false →
      I.Holds (.publishing setting) (h.undergo s setting e)) :
    I.HoldsIn (h.undergo s setting e) := by
  intro q hq
  have hretains := h.retains_undergo s setting e
  cases h.passSteps_undergo s setting e with
  | stays hpass =>
      -- The host may be another one by now, but the invariant speaks only of what lasts.
      obtain ⟨hdeciding, hmaking⟩ := hlasts hretains
      exact (hh q (hpass.symm.trans hq)).transfer hdeciding hmaking
  | begins hnone hopen hpending hpass =>
      rw [hpass] at hq
      cases hq
      exact hbegins hopen
  | goesOn hunder hp position hhost =>
      rw [hhost] at hq ⊢
      cases hq
      exact (I.advance (hh _ hunder) position).of_alike (Host.alike_put ..)
  | isPutAway hended hpass =>
      rw [hpass] at hq
      cases hq

/-- In a host whose queue is marked no pass begins, so all events keep such an invariant. -/
theorem HoldsIn.undergoAll (hh : I.HoldsIn h) (hlasts : I.Lasts)
    (hmarked : h.queue.shuttingDown = true) (es : List (RunEvent κ)) :
    I.HoldsIn (h.undergoAll s setting es) := by
  refine (Host.undergoAll_invariant (I := fun h' => h'.queue.shuttingDown = true ∧ I.HoldsIn h')
    ?_ es ⟨hmarked, hh⟩).2
  rintro h' e ⟨hmarked', hh'⟩
  refine ⟨((h'.retains_undergo s setting e).marked hmarked').1, hh'.undergo hlasts e fun hopen => ?_⟩
  exact absurd (hmarked'.symm.trans hopen) (by decide)

end PassInvariant

end IngressController.Status
