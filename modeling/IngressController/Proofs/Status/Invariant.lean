import IngressController.Proofs.Status.Pass
import IngressController.Proofs.Status.Update

/-!
# `IngressController.Proofs.Status.Invariant`: invariants of passes

A property of a pass under way speaks about its decision, as long as it decides, and then about its
errands, each time together with the host. A `PassInvariant` is such a property with the three facts
that make it last: a step of the decision keeps it, the errands that are decided on satisfy it, and
a step of any one errand keeps it. `PassInvariant.advance` then gives it for every step of the pass,
and `PassInvariant.follow` for every order of steps.
-/

set_option autoImplicit false

namespace IngressController.Status

/-- Two hosts that answer everything alike. They may differ in how far their run, their pass and
their withdrawal are. -/
structure Host.Alike {κ : Type} (h h' : Host κ) : Prop where
  around : h'.around = h.around
  leadership : h'.leadership = h.leadership
  queue : h'.queue = h.queue
  passesEnd : h'.passesEnd = h.passesEnd

/-- A host is like itself. -/
theorem Host.Alike.refl {κ : Type} (h : Host κ) : h.Alike h :=
  ⟨rfl, rfl, rfl, rfl⟩

/-- A host is like all that are like one that is like it. -/
theorem Host.Alike.trans {κ : Type} {h h' h'' : Host κ} (hh : h.Alike h') (hh' : h'.Alike h'') :
    h.Alike h'' where
  around := hh'.around.trans hh.around
  leadership := hh'.leadership.trans hh.leadership
  queue := hh'.queue.trans hh.queue
  passesEnd := hh'.passesEnd.trans hh.passesEnd

/-- A property of a pass under way, of its decision at first and then of its errands, which each
step keeps. It says nothing about a host that is not said of all hosts alike. -/
structure PassInvariant {κ : Type} (s : Surroundings κ) where
  deciding : Decision → Host κ → Prop
  making : List Errand → Host κ → Prop
  deciding_of_alike : ∀ {d : Decision} {h h' : Host κ}, deciding d h → h.Alike h' → deciding d h'
  making_of_alike : ∀ {es : List Errand} {h h' : Host κ}, making es h → h.Alike h' → making es h'
  step_deciding : ∀ {d : Decision} {h : Host κ}, deciding d h → (∀ r, d ≠ .done r) →
    deciding ((d.step (Host.answers s)).run h).value.1 ((d.step (Host.answers s)).run h).value.2
  begin_making : ∀ {us : List Update} {h : Host κ}, deciding (.done (.ok us)) h →
    ∃ es, Runs (Batch.ofWork us) es ∧ making es h
  step_making : ∀ {es : List Errand} {h : Host κ} {i : Nat} {e : Errand}, making es h →
    es[i]? = some e → making (es.set i (e.next s h).1) (e.next s h).2

namespace PassInvariant

variable {κ : Type} {s : Surroundings κ}

/-- A pass satisfies an invariant, in a host. Of one that has ended, the errands are over and their
results are the outcomes. -/
def Holds (I : PassInvariant s) : Pass → Host κ → Prop
  | .deciding d, h => I.deciding d h
  | .updating b, h =>
    ∃ es, Runs b es ∧ b.Filled updatePool.width ∧ b.Accounted ∧ I.making es h
  | .ended (.ok outcomes), h =>
    ∃ es, (∀ e ∈ es, ∃ result, e.stage = .settled result)
      ∧ outcomes.Perm (es.filterMap Errand.result?) ∧ I.making es h
  | .ended (.error e), h => I.deciding (.done (.error e)) h

/-- Every step of a pass keeps its invariants. -/
theorem advance (I : PassInvariant s) {p : Pass} {h : Host κ} (hp : I.Holds p h) (position : Nat) :
    I.Holds ((p.advance (Host.answers s) position).run h).value.1
      ((p.advance (Host.answers s) position).run h).value.2 := by
  generalize hx : ((p.advance (Host.answers s) position).run h).value = x
  have hsteps := Pass.advance_steps (Host.answers s) position h p
  rw [hx] at hsteps
  cases hsteps with
  | fails e => exact hp
  | begins us =>
      -- The batch of the errands is filled at once.
      obtain ⟨es, hruns, hmaking⟩ := I.begin_making hp
      exact ⟨es, hruns.fill _, Batch.filled_fill .., (Batch.accounted_ofWork us).fill _, hmaking⟩
  | decides d hd => exact I.step_deciding hp hd
  | turns b hend =>
      obtain ⟨es, hruns, hfilled, hresults, hmaking⟩ := hp
      have hfilled' := hfilled.turn (Host.answers s) position h
      have hresults' := hresults.turn hfilled (Host.answers s) position h
      -- The turn changes nothing, or makes one errand go on.
      obtain ⟨hruns', hhost⟩ | ⟨e, he, hruns', hhost⟩ := hruns.turn hfilled s position h
      · refine ⟨es, hruns', hfilled', hresults', ?_⟩
        rw [hhost]
        exact hmaking
      · refine ⟨_, hruns', hfilled', hresults', ?_⟩
        rw [hhost]
        exact I.step_making hmaking he
  | ends b hend =>
      obtain ⟨es, hruns, -, hresults, hmaking⟩ := hp
      exact ⟨es, hruns.exists_result hend, hruns.results hend hresults, hmaking⟩
  | stays result => exact hp

/-- Every order of steps of a pass keeps its invariants. -/
theorem follow (I : PassInvariant s) (order : List Nat) {x : Pass × Host κ}
    (hx : I.Holds x.1 x.2) :
    I.Holds (Pass.follow (Host.answers s) order x).1 (Pass.follow (Host.answers s) order x).2 :=
  Pass.follow_invariant (I := I.Holds) (fun position hp => I.advance hp position) order hx

/-- An invariant holds in another host if what it says of the decision and of the errands does. -/
theorem Holds.transfer {I I' : PassInvariant s} {h h' : Host κ} {p : Pass} (hp : I.Holds p h)
    (hdeciding : ∀ d, I.deciding d h → I'.deciding d h')
    (hmaking : ∀ es, I.making es h → I'.making es h') : I'.Holds p h' := by
  cases p with
  | deciding d => exact hdeciding d hp
  | updating b =>
      obtain ⟨es, hruns, hfilled, hresults, hes⟩ := hp
      exact ⟨es, hruns, hfilled, hresults, hmaking es hes⟩
  | ended result =>
      cases result with
      | error e => exact hdeciding _ hp
      | ok outcomes =>
          obtain ⟨es, hsettled, hresults, hes⟩ := hp
          exact ⟨es, hsettled, hresults, hmaking es hes⟩

/-- An invariant that holds in a host holds in all that are alike. -/
theorem Holds.of_alike {I : PassInvariant s} {p : Pass} {h h' : Host κ} (hp : I.Holds p h)
    (halike : h.Alike h') : I.Holds p h' :=
  hp.transfer (fun _ hd => I.deciding_of_alike hd halike)
    (fun _ hes => I.making_of_alike hes halike)

end PassInvariant

end IngressController.Status
