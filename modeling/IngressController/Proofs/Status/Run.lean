import IngressController.Proofs.Status.Turns

/-!
# `IngressController.Proofs.Status.Run`: the run of the passes by its steps

A step of the run is one of three: it goes on between two passes, puts away a pass that has ended,
or makes a step of the pass under way. The withdrawal is made by others, and beside the run.

* `Host.value_step_none`, `Host.value_step_ended` and `Host.value_step_some`: the host after a step.
  `Host.value_step_cases` brings the last two together.
* `Host.withdrawal_step`: the run leaves the withdrawal alone.
-/

set_option autoImplicit false

namespace IngressController.Status.Host

variable {κ : Type} {s : Surroundings κ} {setting : Setting} {h : Host κ} {now position : Nat}

/-- Between two passes the run goes on. -/
theorem value_step_none (hpass : h.pass = none) :
    ((step s setting now position).run h).value.2 = h.goOn setting now := by
  obtain ⟨around, leadership, queue, passesEnd, run, pass, withdrawal⟩ := h
  cases hpass
  rfl

/-- A pass that has ended is put away. -/
theorem value_step_ended {result : Except Error (List UpdateOutcome)}
    (hpass : h.pass = some (.ended result)) :
    ((step s setting now position).run h).value.2 = { h with pass := none } := by
  obtain ⟨around, leadership, queue, passesEnd, run, pass, withdrawal⟩ := h
  cases hpass
  cases result <;> rfl

/-- A pass that is under way makes a step. -/
theorem value_step_some {p : Pass} (hpass : h.pass = some p) (hp : p.isEnded = false) :
    ((step s setting now position).run h).value.2
      = ((p.advance (answers s) position).run h).value.2.put .pass
        ((p.advance (answers s) position).run h).value.1 := by
  obtain ⟨around, leadership, queue, passesEnd, run, pass, withdrawal⟩ := h
  cases hpass
  cases p with
  | ended result => cases hp
  | deciding d => rfl
  | updating b => rfl

/-- While there is a pass, a step of the run lets it go on or puts it away, at whatever time. -/
theorem value_step_cases (s : Surroundings κ) (setting : Setting) (hsome : h.pass.isSome = true)
    (position : Nat) :
    (∃ p, h.pass = some p ∧ p.isEnded = false
        ∧ ∀ now, ((step s setting now position).run h).value.2
          = ((p.advance (answers s) position).run h).value.2.put .pass
            ((p.advance (answers s) position).run h).value.1)
      ∨ ∃ result, h.pass = some (.ended result)
        ∧ ∀ now, ((step s setting now position).run h).value.2 = { h with pass := none } := by
  obtain ⟨p, hpass⟩ := Option.isSome_iff_exists.mp hsome
  cases hp : p.isEnded with
  | false => exact .inl ⟨p, hpass, hp, fun _ => value_step_some hpass hp⟩
  | true =>
      cases p with
      | ended result => exact .inr ⟨result, hpass, fun _ => value_step_ended hpass⟩
      | _ => cases hp

/-- The withdrawal makes a step. -/
theorem value_stepWithdrawal {p : Pass} (hp : h.withdrawal = some p) :
    ((stepWithdrawal s position).run h).value.2
      = ((p.advance (answers s) position).run h).value.2.put .withdrawal
        ((p.advance (answers s) position).run h).value.1 := by
  obtain ⟨around, leadership, queue, passesEnd, run, pass, withdrawal⟩ := h
  cases hp
  rfl

/-- A tick that is taken changes the queue and the time of the next one. -/
theorem exists_takeTick (now : Nat) (h : Host κ) :
    ∃ queue run, h.takeTick now = { h with queue, run } := by
  unfold takeTick
  split
  · split
    · exact ⟨_, _, rfl⟩
    · exact ⟨h.queue, h.run, rfl⟩
  · exact ⟨h.queue, h.run, rfl⟩

/-- Between two passes the run changes its queue and how far it is, and begins a pass. -/
theorem exists_goOn (setting : Setting) (now : Nat) (h : Host κ) :
    ∃ queue run pass, h.goOn setting now = { h with queue, run, pass } := by
  unfold goOn
  split
  · exact ⟨h.queue, .ended, h.pass, rfl⟩
  · obtain ⟨queue, run, htick⟩ := h.exists_takeTick now
    rw [htick]
    simp only
    split
    · exact ⟨_, run, _, rfl⟩
    · exact ⟨_, .ended, h.pass, rfl⟩
    · exact ⟨_, run, h.pass, rfl⟩

/-- A step of the run leaves the withdrawal alone. -/
theorem withdrawal_step : ((step s setting now position).run h).value.2.withdrawal
    = h.withdrawal := by
  cases hpass : h.pass with
  | none =>
      obtain ⟨queue, run, pass, hgoOn⟩ := exists_goOn setting now h
      rw [value_step_none hpass, hgoOn]
  | some p =>
      have hsome : h.pass.isSome = true := by
        rw [hpass]
        rfl
      obtain ⟨p, -, -, hvalue⟩ | ⟨result, -, hvalue⟩ := value_step_cases s setting hsome position
      · rw [hvalue]
        exact under_advance p position h .withdrawal
      · rw [hvalue]

end IngressController.Status.Host
