import IngressController.Proofs.Pool
import IngressController.Status.Pass

/-!
# `IngressController.Proofs.Status.Pass`: every order of the steps of a pass

A pass first decides on its updates and then makes them in a pool. `Pass.advance` is one step of it,
at a position that counts only while updates are in flight, so the orders of the steps of a pass are
lists of positions. `Pass.follow` goes along one of them.

* `Pass.advance_steps`: all that a step can do, one constructor of `Pass.Steps` for each.
* `Pass.exists_isEnded`: if each position gets turn after turn, the pass ends, whatever it is
  answered and whatever else happens between two of its steps.
* `Pass.finish_follow`: the run of a pass to its end follows one of these orders, since no update
  rests.
-/

set_option autoImplicit false

namespace IngressController.Status.Pass

variable {σ : Type} {answers : Program.Answers Ask.Answer σ}

/-! ### Steps -/

/-- What a step at a position leads to, from a pass in a state. -/
inductive Steps (answers : Program.Answers Ask.Answer σ) (position : Nat) (s : σ) :
    Pass → Pass × σ → Prop
  | fails (e : Error) :
      Steps answers position s (deciding (.done (.error e))) (ended (.error e), s)
  | begins (us : List Update) :
      Steps answers position s (deciding (.done (.ok us)))
        (updating ((Batch.ofWork us).fill updatePool.width).1, s)
  | decides (d : Decision) (hd : ∀ r, d ≠ .done r) :
      Steps answers position s (deciding d)
        (deciding ((d.step answers).run s).value.1, ((d.step answers).run s).value.2)
  | turns (b : Batch Ask.Answer UpdateOutcome) (hb : b.isFinished = false) :
      Steps answers position s (updating b)
        (updating ((b.turn answers updatePool.width position).run s).value.1,
          ((b.turn answers updatePool.width position).run s).value.2)
  | ends (b : Batch Ask.Answer UpdateOutcome) (hb : b.isFinished = true) :
      Steps answers position s (updating b) (ended (.ok b.results), s)
  | stays (result : Except Error (List UpdateOutcome)) :
      Steps answers position s (ended result) (ended result, s)

/-- While its updates are under way, a step of a pass is a turn of them. -/
theorem value_advance_updating {b : Batch Ask.Answer UpdateOutcome} (hb : b.isFinished = false)
    (answers : Program.Answers Ask.Answer σ) (position : Nat) (s : σ) :
    (((updating b).advance answers position).run s).value
      = (updating ((b.turn answers updatePool.width position).run s).value.1,
        ((b.turn answers updatePool.width position).run s).value.2) := by
  rw [advance, if_neg (by rw [hb]; decide)]
  rfl

/-- Once they have been made, a step ends the pass with their outcomes. -/
theorem value_advance_finished {b : Batch Ask.Answer UpdateOutcome} (hb : b.isFinished = true)
    (answers : Program.Answers Ask.Answer σ) (position : Nat) (s : σ) :
    (((updating b).advance answers position).run s).value = (ended (.ok b.results), s) := by
  rw [advance, if_pos hb]
  rfl

/-- All that a step of a pass can do. -/
theorem advance_steps (answers : Program.Answers Ask.Answer σ) (position : Nat) (s : σ) (p : Pass) :
    Steps answers position s p ((p.advance answers position).run s).value := by
  cases p with
  | deciding d =>
      cases d with
      | done r =>
          cases r with
          | error e => exact .fails e
          | ok us => exact .begins us
      | note n next => exact .decides _ (by simp)
      | rest next => exact .decides _ (by simp)
      | ask q next => exact .decides _ (by simp)
  | updating b =>
      cases hb : b.isFinished with
      | true =>
          rw [value_advance_finished hb]
          exact .ends b hb
      | false =>
          rw [value_advance_updating hb]
          exact .turns b hb
  | ended result => exact .stays result

/-- What answering every request keeps, every step of a pass keeps. -/
theorem advance_state {I : σ → Prop} (hI : ∀ q s, I s → I ((answers q).run s).value.2) (p : Pass)
    (position : Nat) {s : σ} (hs : I s) : I ((p.advance answers position).run s).value.2 := by
  -- Decisions and updates go on in the same way: a step answers at most one request.
  have hstep : ∀ {α : Type} (work : Program Ask.Answer α),
      I ((work.step answers).run s).value.2 := by
    intro α work
    cases work with
    | done a => exact hs
    | note n next => exact hs
    | rest next => exact hs
    | ask q next => exact hI q s hs
  generalize hx : ((p.advance answers position).run s).value = x
  have hsteps := advance_steps answers position s p
  rw [hx] at hsteps
  cases hsteps with
  | fails e => exact hs
  | begins us => exact hs
  | decides d hd => exact hstep d
  | turns b hb =>
      show I ((b.advance answers position).run s).value.2
      rw [Batch.advance]
      split
      · exact hs
      · exact hstep _
      · exact hs
  | ends b hb => exact hs
  | stays result => exact hs

/-- The pass and the state after steps in some order. -/
def follow (answers : Program.Answers Ask.Answer σ) (order : List Nat) (x : Pass × σ) : Pass × σ :=
  order.foldl (fun x position => ((x.1.advance answers position).run x.2).value) x

/-- Without steps nothing changes. -/
@[simp] theorem follow_nil (x : Pass × σ) : follow answers [] x = x := rfl

/-- An order goes on after its first step. -/
@[simp] theorem follow_cons (position : Nat) (order : List Nat) (x : Pass × σ) :
    follow answers (position :: order) x
      = follow answers order ((x.1.advance answers position).run x.2).value := rfl

/-- Two orders, one after the other. -/
theorem follow_append (order order' : List Nat) (x : Pass × σ) :
    follow answers (order ++ order') x = follow answers order' (follow answers order x) :=
  List.foldl_append ..

/-- What every step keeps, every order of steps keeps. -/
theorem follow_invariant {I : Pass → σ → Prop}
    (hstep : ∀ {p : Pass} {s : σ} (position : Nat), I p s →
      I ((p.advance answers position).run s).value.1 ((p.advance answers position).run s).value.2)
    (order : List Nat) {x : Pass × σ} (hx : I x.1 x.2) :
    I (follow answers order x).1 (follow answers order x).2 := by
  induction order generalizing x with
  | nil => exact hx
  | cons position order ih => exact ih (hstep position hx)

/-! ### Every pass ends -/

/-- A pass goes through these stages if each of them is a step after the one before, in any state:
what happens between two steps is left open. -/
def GoesThrough (answers : Program.Answers Ask.Answer σ) (order : Nat → Nat) (p : Nat → Pass) :
    Prop :=
  ∀ t, ∃ s, p (t + 1) = (((p t).advance answers (order t)).run s).value.1

/-- If each position gets turn after turn, updates under way come to an end. -/
theorem GoesThrough.exists_isEnded_of_updating {order : Nat → Nat} {p : Nat → Pass}
    (h : GoesThrough answers order p) (hfair : Fair order) {t₀ : Nat}
    {b₀ : Batch Ask.Answer UpdateOutcome} (hb₀ : b₀.Filled updatePool.width)
    (hp : p t₀ = updating b₀) : ∃ t, (p t).isEnded = true := by
  by_contra hnever
  -- As long as the pass does not end, it goes on with its updates.
  have hupdating : ∀ t, ∃ b, p (t₀ + t) = updating b ∧ b.isFinished = false := by
    have hunfinished : ∀ t b, p t = updating b → b.isFinished = false := by
      intro t b hb
      cases hend : b.isFinished with
      | false => rfl
      | true =>
          obtain ⟨s, hs⟩ := h t
          rw [hb, value_advance_finished hend] at hs
          exact absurd ⟨t + 1, by rw [hs]; rfl⟩ hnever
    intro t
    induction t with
    | zero => exact ⟨b₀, hp, hunfinished _ _ hp⟩
    | succ t ih =>
        obtain ⟨b, hb, hend⟩ := ih
        obtain ⟨s, hs⟩ := h (t₀ + t)
        rw [hb, value_advance_updating hend] at hs
        exact ⟨_, hs, hunfinished _ _ hs⟩
  -- So its batches go through turn after turn without end, which no batch does.
  choose b hb hend using hupdating
  have hgoes : Batch.GoesThrough answers updatePool.width (fun t => order (t₀ + t)) b := by
    refine ⟨?_, fun t => ?_⟩
    · obtain rfl : b 0 = b₀ := by simpa using (hb 0).symm.trans hp
      exact hb₀
    · obtain ⟨s, hs⟩ := h (t₀ + t)
      rw [hb t, value_advance_updating (hend t)] at hs
      refine ⟨s, ?_⟩
      have hnext : updating (b (t + 1)) = updating _ := (hb (t + 1)).symm.trans hs
      exact (Pass.updating.inj hnext)
  have hfair' : Fair fun t => order (t₀ + t) := by
    intro position t
    obtain ⟨t', hle, ht'⟩ := hfair position (t₀ + t)
    exact ⟨t' - t₀, by omega, by show order (t₀ + (t' - t₀)) = _; rw [← ht']; congr 1; omega⟩
  obtain ⟨t, ht⟩ := hgoes.exists_isFinished updatePool.width_pos hfair'
  rw [hend t] at ht
  exact absurd ht (by decide)

/-- If each position gets turn after turn, a pass that begins comes to an end. The induction is on
what is left of the decision. -/
theorem GoesThrough.exists_isEnded {order : Nat → Nat} {p : Nat → Pass}
    (h : GoesThrough answers order p) (hfair : Fair order) (t₀ : Nat) {d : Decision}
    (hp : p t₀ = deciding d) : ∃ t, (p t).isEnded = true := by
  obtain ⟨s, hs⟩ := h t₀
  rw [hp] at hs
  induction d generalizing t₀ s with
  | done r =>
      cases r with
      | error e => exact ⟨t₀ + 1, by rw [hs]; rfl⟩
      | ok us => exact h.exists_isEnded_of_updating hfair (Batch.filled_fill ..) hs
  | note n next ih =>
      obtain ⟨s', hs'⟩ := h (t₀ + 1)
      rw [hs] at hs'
      exact ih _ hs s' hs'
  | rest next ih =>
      obtain ⟨s', hs'⟩ := h (t₀ + 1)
      rw [hs] at hs'
      exact ih _ hs s' hs'
  | ask q next ih =>
      obtain ⟨s', hs'⟩ := h (t₀ + 1)
      rw [hs] at hs'
      exact ih _ _ hs s' hs'

/-- A pass that makes updates has started as many as there is room for. -/
def Filled : Pass → Prop
  | updating b => b.Filled updatePool.width
  | _ => True

/-- If each position gets turn after turn, a pass comes to an end from any stage on. -/
theorem GoesThrough.exists_isEnded_of_filled {order : Nat → Nat} {p : Nat → Pass}
    (h : GoesThrough answers order p) (hfair : Fair order) {t₀ : Nat} (hp : (p t₀).Filled) :
    ∃ t, (p t).isEnded = true := by
  cases hstage : p t₀ with
  | deciding d => exact h.exists_isEnded hfair t₀ hstage
  | updating b =>
      rw [hstage] at hp
      exact h.exists_isEnded_of_updating hfair hp hstage
  | ended result => exact ⟨t₀, by rw [hstage]; rfl⟩

/-- To follow an endless order is to go through such stages. -/
theorem goesThrough_follow (order : Nat → Nat) (x : Pass × σ) :
    GoesThrough answers order fun t => (follow answers ((List.range t).map order) x).1 := by
  intro t
  refine ⟨(follow answers ((List.range t).map order) x).2, ?_⟩
  show (follow answers ((List.range (t + 1)).map order) x).1 = _
  rw [List.range_succ, List.map_append, follow_append]
  rfl

/-! ### The run to the end -/

/-- No update of the pass rests, neither one that it makes nor one that it can decide on. -/
def Restless : Pass → Prop
  | deciding d =>
    d.Ensures (fun _ => True) (fun _ _ => True) fun r => ∀ us, r = .ok us → ∀ u ∈ us, u.Restless
  | updating b => b.Restless ∧ b.Filled updatePool.width
  | ended _ => True

/-- An order of turns of the updates is an order of steps of the pass, as far as the updates go. -/
theorem exists_follow_updating (answers : Program.Answers Ask.Answer σ)
    {b : Batch Ask.Answer UpdateOutcome} (hb : b.Filled updatePool.width) (order : List Nat)
    (s : σ) :
    ∃ order', follow answers order' (updating b, s)
      = (updating (Batch.follow answers updatePool.width order (b, s)).1,
        (Batch.follow answers updatePool.width order (b, s)).2) := by
  induction order generalizing b s with
  | nil => exact ⟨[], rfl⟩
  | cons i order ih =>
      cases hend : b.isFinished with
      | true =>
          -- A step would now end the pass, while a turn changes nothing.
          rw [Batch.follow_of_isFinished hb hend]
          exact ⟨[], rfl⟩
      | false =>
          obtain ⟨order', horder'⟩ := ih (hb.turn answers i s)
            ((b.turn answers updatePool.width i).run s).value.2
          refine ⟨i :: order', ?_⟩
          rw [follow_cons, Batch.follow_cons, value_advance_updating hend]
          exact horder'

/-- Updates that have been made end the pass. -/
theorem exists_follow_ended {b : Batch Ask.Answer UpdateOutcome} {s : σ}
    (hb : b.Filled updatePool.width) {order : List Nat}
    {x : Batch Ask.Answer UpdateOutcome × σ}
    (hx : Batch.follow answers updatePool.width order (b, s) = x) (hend : x.1.isFinished = true) :
    ∃ order', follow answers order' (updating b, s) = (ended (.ok x.1.results), x.2) := by
  obtain ⟨order', horder'⟩ := exists_follow_updating answers hb order s
  refine ⟨order' ++ [0], ?_⟩
  rw [follow_append, horder', hx, follow_cons, value_advance_finished hend]
  rfl

/-- An order goes on after a step of the decision. -/
theorem exists_follow_of_step {d : Decision} (hd : ∀ r, d ≠ .done r) {s : σ} {x : Pass × σ}
    (h : ∃ order, follow answers order
      (deciding ((d.step answers).run s).value.1, ((d.step answers).run s).value.2) = x) :
    ∃ order, follow answers order (deciding d, s) = x := by
  obtain ⟨order, horder⟩ := h
  refine ⟨0 :: order, ?_⟩
  rw [follow_cons, ← horder]
  cases d with
  | done r => exact absurd rfl (hd r)
  | note n next => rfl
  | rest next => rfl
  | ask q next => rfl

/-- The run of a pass to its end follows an order of its steps. -/
theorem finish_follow (answers : Program.Answers Ask.Answer σ) {p : Pass} (hp : p.Restless)
    (s : σ) :
    ∃ order, follow answers order (p, s)
      = (ended ((p.finish answers).run s).value.1, ((p.finish answers).run s).value.2) := by
  cases p with
  | ended result => exact ⟨[], rfl⟩
  | updating b =>
      obtain ⟨order, b', hfollow, hend, hresults⟩ :=
        updatePool.finish_follow answers hp.1 hp.2 s
      obtain ⟨order', horder'⟩ := exists_follow_ended hp.2 hfollow hend
      refine ⟨order', ?_⟩
      rw [horder', ← hresults]
      rfl
  | deciding d =>
      induction d generalizing s with
      | done r =>
          cases r with
          | error e => exact ⟨[0], rfl⟩
          | ok us =>
              -- One step starts the updates, which the pool then brings to their ends.
              obtain ⟨order, b', hfollow, hend, hresults⟩ :=
                updatePool.run_follow answers (hp us rfl) s
              obtain ⟨order', horder'⟩ := exists_follow_ended (Batch.filled_fill ..) hfollow hend
              refine ⟨0 :: order', ?_⟩
              rw [follow_cons]
              refine horder'.trans ?_
              rw [← hresults]
              rfl
      | note n next ih => exact exists_follow_of_step (by simp) (ih s hp)
      | rest next ih => exact exists_follow_of_step (by simp) (ih s hp)
      | ask q next ih => exact exists_follow_of_step (by simp) (ih _ _ (hp.2 _ trivial))

end IngressController.Status.Pass
