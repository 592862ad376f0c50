import IngressController.Proofs.Status.Scene

/-!
# `IngressController.Proofs.Status.Turns`: a pass and the withdrawal that take turns

When a host shuts down while a pass is under way, the pass and the withdrawal go on side by side. A
`Turn` names which of the two makes the next step, and every way in which they can go on is a list
of turns.

* `Host.take_of_some`: a turn is a step of its side, and leaves the other one alone.
* `PassInvariant.Apart`: the steps of one pass keep the invariant of another one. `Joint.takeAll`
  gives the invariants of both sides for all turns, if they are apart.
* `Host.exists_turns`: turns of one side bring it to its end.
-/

set_option autoImplicit false

namespace IngressController.Status

/-- The two that go on side by side when a host shuts down. -/
inductive Side where
  | pass
  | withdrawal
  deriving DecidableEq

/-- One step of a side, at the position of an update. -/
structure Turn where
  side : Side
  position : Nat

namespace Host

variable {κ : Type} {s : Surroundings κ} {setting : Setting} {h : Host κ}

/-- What is under way on a side. -/
def under (h : Host κ) : Side → Option Pass
  | .pass => h.pass
  | .withdrawal => h.withdrawal

/-- A host with a pass on a side. -/
def put (h : Host κ) (side : Side) (p : Pass) : Host κ :=
  match side with
  | .pass => { h with pass := some p }
  | .withdrawal => { h with withdrawal := some p }

/-- What is put on a side is under way there. -/
@[simp] theorem under_put_self (h : Host κ) (side : Side) (p : Pass) :
    (h.put side p).under side = some p := by
  cases side <;> rfl

/-- What is put on a side is not under way on the other one. -/
theorem under_put_of_ne {side side' : Side} (hne : side' ≠ side) (h : Host κ) (p : Pass) :
    (h.put side p).under side' = h.under side' := by
  cases side <;> cases side' <;> first | rfl | exact absurd rfl hne

/-- To put back what is under way changes nothing. -/
theorem put_of_under {side : Side} {p : Pass} (hp : h.under side = some p) : h.put side p = h := by
  obtain ⟨around, leadership, queue, passesEnd, run, pass, withdrawal⟩ := h
  cases side with
  | pass =>
      obtain rfl : pass = some p := hp
      rfl
  | withdrawal =>
      obtain rfl : withdrawal = some p := hp
      rfl

/-- Hosts with other passes are alike. -/
theorem alike_put (h : Host κ) (side : Side) (p : Pass) : h.Alike (h.put side p) := by
  cases side <;> exact ⟨rfl, rfl, rfl, rfl⟩

/-- Whether a pass is under way. -/
def isPassing (h : Host κ) : Bool :=
  h.pass.any fun p => !p.isEnded

/-- The host after a turn. A pass under way does not look at the time. -/
def take (s : Surroundings κ) (setting : Setting) (h : Host κ) (t : Turn) : Host κ :=
  match t.side with
  | .pass => if h.isPassing then ((step s setting 0 t.position).run h).value.2 else h
  | .withdrawal => ((stepWithdrawal s t.position).run h).value.2

/-- The host after some turns. -/
def takeAll (s : Surroundings κ) (setting : Setting) (h : Host κ) (ts : List Turn) : Host κ :=
  ts.foldl (take s setting) h

/-- Turns after turns. -/
theorem takeAll_append (ts ts' : List Turn) (h : Host κ) :
    h.takeAll s setting (ts ++ ts') = (h.takeAll s setting ts).takeAll s setting ts' :=
  List.foldl_append ..

/-- What every turn keeps, all turns keep. -/
theorem takeAll_invariant {I : Host κ → Prop}
    (hstep : ∀ {h : Host κ} (t : Turn), I h → I (h.take s setting t)) (ts : List Turn)
    (hh : I h) : I (h.takeAll s setting ts) := by
  induction ts generalizing h with
  | nil => exact hh
  | cons t ts ih => exact ih (hstep t hh)

/-! ### One turn -/

/-- A turn of a side on which nothing is under way changes nothing. -/
theorem take_of_none {t : Turn} (hp : h.under t.side = none) : h.take s setting t = h := by
  obtain ⟨side, position⟩ := t
  obtain ⟨around, leadership, queue, passesEnd, run, pass, withdrawal⟩ := h
  cases side with
  | pass =>
      obtain rfl : pass = none := hp
      rfl
  | withdrawal =>
      obtain rfl : withdrawal = none := hp
      rfl

/-- A turn of a side is a step of what is under way there. -/
theorem take_of_some {t : Turn} {p : Pass} (hp : h.under t.side = some p) :
    h.take s setting t = ((p.advance (answers s) t.position).run h).value.2.put t.side
      ((p.advance (answers s) t.position).run h).value.1 := by
  obtain ⟨side, position⟩ := t
  cases side with
  | withdrawal =>
      obtain ⟨around, leadership, queue, passesEnd, run, pass, withdrawal⟩ := h
      obtain rfl : withdrawal = some p := hp
      rfl
  | pass =>
      cases p with
      | ended result =>
          -- No step is made then, but it would not change the pass either.
          have hidle : h.isPassing = false := by
            rw [isPassing, show h.pass = some (.ended result) from hp]
            rfl
          rw [take, hidle]
          exact (put_of_under hp).symm
      | deciding d =>
          obtain ⟨around, leadership, queue, passesEnd, run, pass, withdrawal⟩ := h
          obtain rfl : pass = some (.deciding d) := hp
          rfl
      | updating b =>
          obtain ⟨around, leadership, queue, passesEnd, run, pass, withdrawal⟩ := h
          obtain rfl : pass = some (.updating b) := hp
          rfl

/-- A step of a pass tells nothing to any side: the host that it leaves has the passes that it
had. -/
theorem under_advance (p : Pass) (position : Nat) (h : Host κ) (side : Side) :
    ((p.advance (answers s) position).run h).value.2.under side = h.under side := by
  have hanswer : ∀ (q : Ask) (h' : Host κ), h'.under side = h.under side →
      ((answers s q).run h').value.2.under side = h.under side := by
    intro q h' hh'
    rw [← hh']
    cases q with
    | call c => cases side <;> rfl
    | ingresses => rfl
    | leading => rfl
    | shuttingDown => rfl
    | cancelled token => cases token <;> rfl
  exact Pass.advance_state (I := fun h' : Host κ => h'.under side = h.under side) hanswer p position
    rfl

/-- A turn of a side leaves the other one alone. -/
theorem under_take_of_ne {t : Turn} {side : Side} (hne : side ≠ t.side) :
    (h.take s setting t).under side = h.under side := by
  cases hp : h.under t.side with
  | none => rw [take_of_none hp]
  | some p => rw [take_of_some hp, under_put_of_ne hne, under_advance]

/-! ### All turns of one side -/

/-- Turns of one side leave the other one alone. -/
theorem under_takeAll_of_ne {side side' : Side} (hne : side' ≠ side) (positions : List Nat) :
    (h.takeAll s setting (positions.map (Turn.mk side))).under side' = h.under side' := by
  induction positions generalizing h with
  | nil => rfl
  | cons position positions ih => exact ih.trans (under_take_of_ne hne)

/-- Turns of one side bring it to its end. -/
theorem exists_turns (s : Surroundings κ) (setting : Setting) (side : Side) {p : Pass}
    (hp : h.under side = some p) (hfilled : p.Filled) :
    ∃ (positions : List Nat) (result : Except Error (List UpdateOutcome)),
      (h.takeAll s setting (positions.map (Turn.mk side))).under side = some (.ended result) := by
  -- A fair order of positions, and the host after each part of it.
  let positions : Nat → List Nat := fun t => (List.range t).map fun n => n.unpair.1
  let host : Nat → Host κ := fun t => h.takeAll s setting ((positions t).map (Turn.mk side))
  have hnext : ∀ t, host (t + 1) = (host t).take s setting ⟨side, t.unpair.1⟩ := by
    intro t
    show h.takeAll s setting (((List.range (t + 1)).map _).map _) = _
    rw [List.range_succ, List.map_append, List.map_append, takeAll_append]
    rfl
  have hstays : ∀ t, ∃ q, (host t).under side = some q := by
    intro t
    induction t with
    | zero => exact ⟨p, hp⟩
    | succ t ih =>
        obtain ⟨q, hq⟩ := ih
        rw [hnext, take_of_some hq]
        exact ⟨_, under_put_self ..⟩
  choose q hq using hstays
  -- What is under way goes through its stages, and so it ends.
  have hgoes : Pass.GoesThrough (answers s) (fun t => t.unpair.1) q := by
    intro t
    refine ⟨host t, ?_⟩
    have hsucc := hq (t + 1)
    rw [hnext, take_of_some (hq t), under_put_self] at hsucc
    exact (Option.some.inj hsucc).symm
  have hfirst : (q 0).Filled := by
    obtain rfl : q 0 = p := Option.some.inj ((hq 0).symm.trans hp)
    exact hfilled
  obtain ⟨t, ht⟩ := hgoes.exists_isEnded_of_filled fair_unpair hfirst
  cases hresult : q t with
  | deciding d => rw [hresult] at ht; cases ht
  | updating b => rw [hresult] at ht; cases ht
  | ended result => exact ⟨positions t, result, by rw [← hresult]; exact hq t⟩

end Host

/-! ### Invariants -/

namespace PassInvariant

variable {κ : Type} {s : Surroundings κ} {h : Host κ}

/-- A turn of a side keeps the invariant of what is under way there. -/
theorem Holds.take {I : PassInvariant s} (setting : Setting) (t : Turn) {p : Pass}
    (hheld : I.Holds p h) (hp : h.under t.side = some p) :
    ∃ q, (h.take s setting t).under t.side = some q ∧ I.Holds q (h.take s setting t) := by
  rw [Host.take_of_some hp]
  exact ⟨_, Host.under_put_self .., (I.advance hheld t.position).of_alike (Host.alike_put ..)⟩

/-- Turns of one side keep the invariant of what is under way there. -/
theorem Holds.takeAll {I : PassInvariant s} (setting : Setting) (side : Side) {p : Pass}
    (hheld : I.Holds p h) (hp : h.under side = some p) (positions : List Nat) :
    ∃ q, (h.takeAll s setting (positions.map (Turn.mk side))).under side = some q
      ∧ I.Holds q (h.takeAll s setting (positions.map (Turn.mk side))) := by
  induction positions generalizing h p with
  | nil => exact ⟨p, hp, hheld⟩
  | cons position positions ih =>
      obtain ⟨q, hq, hheld'⟩ := hheld.take setting ⟨side, position⟩ hp
      exact ih hheld' hq

/-- The steps of a pass with the invariant `J` keep the invariant `I` of another pass. -/
structure Apart (I J : PassInvariant s) : Prop where
  decision : ∀ {p : Pass} {d : Decision} {h : Host κ}, I.Holds p h → J.deciding d h →
    I.Holds p ((d.step (Host.answers s)).run h).value.2
  errand : ∀ {p : Pass} {es : List Errand} {i : Nat} {e : Errand} {h : Host κ}, I.Holds p h →
    J.making es h → es[i]? = some e → I.Holds p (e.next s h).2

/-- A step of a pass keeps the invariant of a pass that it is apart from. -/
theorem Apart.advance {I J : PassInvariant s} (hIJ : I.Apart J) {p q : Pass} (hp : I.Holds p h)
    (hq : J.Holds q h) (position : Nat) :
    I.Holds p ((q.advance (Host.answers s) position).run h).value.2 := by
  generalize hx : ((q.advance (Host.answers s) position).run h).value = x
  have hsteps := Pass.advance_steps (Host.answers s) position h q
  rw [hx] at hsteps
  cases hsteps with
  | fails e => exact hp
  | begins us => exact hp
  | decides d hd => exact hIJ.decision hp hq
  | turns b hend =>
      obtain ⟨es, hruns, hfilled, -, hmaking⟩ := hq
      obtain ⟨-, hhost⟩ | ⟨e, he, -, hhost⟩ := hruns.turn hfilled s position h
      · rw [hhost]
        exact hp
      · rw [hhost]
        exact hIJ.errand hp hmaking he
  | ends b hend => exact hp
  | stays result => exact hp

/-- What is under way on each side satisfies an invariant. -/
def Joint (I : Side → PassInvariant s) (h : Host κ) : Prop :=
  ∀ side, ∃ p, h.under side = some p ∧ (I side).Holds p h

variable {I : Side → PassInvariant s}

/-- A turn keeps the invariants of both sides. -/
theorem Joint.take (hh : Joint I h)
    (hapart : ∀ side side', side ≠ side' → (I side).Apart (I side')) (setting : Setting)
    (t : Turn) : Joint I (h.take s setting t) := by
  intro side
  obtain ⟨p, hp, hheld⟩ := hh t.side
  by_cases hside : side = t.side
  · subst hside
    exact hheld.take setting t hp
  · obtain ⟨q, hq, hheld'⟩ := hh side
    refine ⟨q, (Host.under_take_of_ne hside).trans hq, ?_⟩
    rw [Host.take_of_some hp]
    exact ((hapart side t.side hside).advance hheld' hheld t.position).of_alike (Host.alike_put ..)

/-- All turns keep the invariants of both sides. -/
theorem Joint.takeAll (hh : Joint I h)
    (hapart : ∀ side side', side ≠ side' → (I side).Apart (I side')) (setting : Setting)
    (ts : List Turn) : Joint I (h.takeAll s setting ts) :=
  Host.takeAll_invariant (I := Joint I) (fun t hh' => hh'.take hapart setting t) ts hh

end PassInvariant

/-- On a cluster in memory a turn leaves everything but the copies of Ingresses as it was. -/
theorem Host.Steady.take {h₀ h : Host Scene} {setting : Setting} (hs : Host.Steady h₀ h)
    (t : Turn) : Host.Steady h₀ (h.take Scene.surroundings setting t) := by
  cases hp : h.under t.side with
  | none =>
      rw [Host.take_of_none hp]
      exact hs
  | some p =>
      have hadvance : Host.Steady h₀
          ((p.advance (Host.answers Scene.surroundings) t.position).run h).value.2 :=
        Pass.advance_state (fun q _ hq => hq.answer q) p t.position hs
      rw [Host.take_of_some hp]
      exact hadvance.of_alike (Host.alike_put ..)

/-- On a cluster in memory turns leave everything but the copies of Ingresses as it was. -/
theorem Host.Steady.takeAll {h₀ h : Host Scene} {setting : Setting} (hs : Host.Steady h₀ h)
    (ts : List Turn) : Host.Steady h₀ (h.takeAll Scene.surroundings setting ts) :=
  Host.takeAll_invariant (I := Host.Steady h₀) (fun t hs' => hs'.take t) ts hs

end IngressController.Status
