import IngressController.Election.Candidate
import IngressController.Proofs.Election.Elector

/-!
# `IngressController.Proofs.Election.Candidate`: the lease and the lead

A candidate holds a lease on an API server and leads. The lease is in the hands of its manager, and
whether it leads is what its elector was told last. So a candidate that is told to end gives up the
lease in one step, its manager frees it in another, and the elector takes the lead away in a third,
when it sees that the manager has ended. In between another candidate can take the lease, and then
both lead.

The environment of a candidate is as free as it can be: steps are made at any times, in between the
server can become any other, and the candidate can be told to end at any moment.

* `Candidate.Steps`: what a step is. `Candidate.steps_of_step` has a case for each.
* `Candidate.Informed`: as long as an elector has a manager, it leads exactly if the manager has
  told that it holds the lease. `Candidate.informed_meetAll` gives it for all that can happen.
* `Candidate.leadsGivenUp_iff`: so an elector that has given up the lease leads exactly if the lease
  was its own, as far as its manager had told, and it has not seen yet that the manager has ended.
  This is so for everything that a manager can tell, and for the manager of a candidate.
-/

set_option autoImplicit false

namespace IngressController.Election

open Api

/-! ### What a manager has told -/

namespace Manager

section Leading

variable {c : Config} {identity : String} {now : Nat} {m : Manager} {s : Server} {patch : Json}

theorem leading_inTrouble (trouble : Trouble) : (m.inTrouble now trouble).leading = m.leading := by
  cases trouble <;> rfl

theorem leading_of_read {m' : Manager} (h : m.read c s = .ok m') : m'.leading = m.leading := by
  unfold read at h
  split at h
  · split at h
    · cases h
      rfl
    · cases h
  · cases h

theorem leading_of_refresh {m' : Manager} (h : m.refresh c s = .ok m') :
    m'.leading = m.leading := by
  unfold refresh at h
  split at h
  · cases h
    rfl
  · exact leading_of_read h

theorem leading_of_change {m' : Manager} {s' : Server}
    (h : m.change c s patch = (.ok m', s')) : m'.leading = m.leading := by
  unfold change at h
  split at h
  · cases h
  · exact leading_of_read (congrArg Prod.fst h)

theorem leading_changeAndLook : (m.changeAndLook c now s patch).1.leading = m.leading := by
  unfold changeAndLook
  split
  · exact leading_inTrouble _
  · next hchange =>
      have hleading := leading_of_change hchange
      exact hleading

theorem leading_free : (m.free c now s).1.leading = m.leading := by
  unfold free
  split
  · rfl
  · rfl
  · next hchange =>
      have hleading := leading_of_change hchange
      exact hleading

theorem leading_act : (m.act c identity now s).1.leading = m.leading := by
  unfold act
  split
  · rfl
  · split
    · exact leading_changeAndLook
    · split
      · rfl
      · exact leading_free

theorem leading_goOn : (m.goOn c identity now s).2.1.leading
    = (m.goOn c identity now s).1.getD m.leading := by
  unfold goOn
  split
  · exact leading_inTrouble _
  · next m' hrefresh =>
      have hleading : m'.leading = m.leading := leading_of_refresh hrefresh
      simp only
      split
      · exact leading_act.trans hleading
      · rfl

/-- A manager remembers what it has told last. -/
theorem leading_look : (m.look c identity now s).2.1.leading
    = (m.look c identity now s).1.getD m.leading := by
  unfold look
  split
  · exact leading_changeAndLook
  · rfl
  · rfl
  · exact leading_goOn

end Leading

end Manager

/-! ### Steps -/

namespace Candidate

theorem value_react (c : Candidate) (o : Occurrence) :
    (c.react o).value = { c with elector := (c.elector.react o).value } := rfl

/-- What a step of a candidate at a time can be. -/
inductive Steps (c : Candidate) (now : Nat) (s : Server) : Candidate → Server → Prop where
  /-- The lease is looked for. -/
  | prepares (hphase : c.elector.phase = .preparing) :
      Steps c now s (c.react (c.prepare s).1).value (c.prepare s).2
  /-- The manager is let go. -/
  | cancels (hphase : c.elector.phase = .electing) (hcancelled : c.cancelled = true) :
      Steps c now s (c.react .cancelled).value s
  /-- The elector looks at the holder. -/
  | looks (hphase : c.elector.phase = .electing) (hdue : c.ticker.isDue now = true) :
      Steps c now s
        ({ c with ticker := c.ticker.tickSkipping now }.react (.looked (c.holder? s))).value s
  /-- The manager acts. -/
  | manages (hphase : c.elector.phase = .electing) (hdue : c.manager.isDue now = true) :
      Steps c now s (c.manage now s).value.1 (c.manage now s).value.2
  /-- The elector sees that the manager has ended. -/
  | ends {result : Except Status.Error Unit} {ending : Ending}
      (hphase : c.elector.phase = .releasing result) (hreleased : c.released = some ending) :
      Steps c now s (c.react (.released ending)).value s
  /-- The manager ends. -/
  | closes {result : Except Status.Error Unit} (hphase : c.elector.phase = .releasing result)
      (hreleased : c.released = none) (hclose : c.manager.canClose now = true) :
      Steps c now s (c.close s).1 (c.close s).2

/-- A step is one of these. -/
theorem steps_of_step {c c' : Candidate} {now : Nat} {s s' : Server}
    (h : (c.step now s).value = some (c', s')) : Steps c now s c' s' := by
  unfold step at h
  cases hphase : c.elector.phase with
  | preparing =>
      simp only [hphase] at h
      cases h
      exact .prepares hphase
  | stopped result =>
      simp only [hphase] at h
      cases h
  | electing =>
      simp only [hphase] at h
      split at h
      · next hcancelled =>
          cases h
          exact .cancels hphase hcancelled
      · split at h
        · next hdue =>
            cases h
            exact .looks hphase hdue
        · split at h
          · next hdue =>
              have hmanages := Steps.manages hphase hdue (s := s)
              rw [show (c.manage now s).value = (c', s') from Option.some.inj h] at hmanages
              exact hmanages
          · cases h
  | releasing result =>
      simp only [hphase] at h
      split at h
      · next hreleased =>
          cases h
          exact .ends hphase hreleased
      · next hreleased =>
          split at h
          · next hclose =>
              cases h
              exact .closes hphase hreleased hclose
          · cases h

theorem cancelled_manage (c : Candidate) (now : Nat) (s : Server) :
    (c.manage now s).value.1.cancelled = c.cancelled := by
  unfold manage
  split
  next told manager s' hlook =>
    split <;> rfl

/-- No candidate tells itself to end. -/
theorem Steps.cancelled {c c' : Candidate} {now : Nat} {s s' : Server}
    (h : Steps c now s c' s') : c'.cancelled = c.cancelled := by
  cases h with
  | manages hphase hdue => exact c.cancelled_manage now s
  | _ => rfl

/-- Something that can happen to a candidate, and to the server. -/
inductive Event where
  /-- The candidate does the next thing that there is to do at a time. -/
  | step (now : Nat)
  /-- Others change the server. -/
  | elsewhere (s : Server)
  /-- The candidate is told to end. -/
  | cancel

/-- A candidate and the server after something has happened. -/
def meet (x : Candidate × Server) : Event → Candidate × Server
  | .step now => ((x.1.step now x.2).value).getD x
  | .elsewhere s => (x.1, s)
  | .cancel => (x.1.cancel, x.2)

/-- A candidate and the server after several things have happened. -/
def meetAll (x : Candidate × Server) (es : List Event) : Candidate × Server :=
  es.foldl meet x

/-- What every step keeps, and what being told to end keeps, holds whatever happens. -/
theorem meetAll_invariant {P : Candidate → Prop}
    (hstep : ∀ {c now s c' s'}, Steps c now s c' s' → P c → P c') (hcancel : ∀ c, P c → P c.cancel)
    {x : Candidate × Server} (hx : P x.1) (es : List Event) : P (meetAll x es).1 := by
  induction es generalizing x with
  | nil => exact hx
  | cons e es ih =>
      refine ih ?_
      cases e with
      | elsewhere s => exact hx
      | cancel => exact hcancel x.1 hx
      | step now =>
          show P ((x.1.step now x.2).value.getD x).1
          cases h : (x.1.step now x.2).value with
          | none => exact hx
          | some x' => exact hstep (steps_of_step h) hx

/-! ### What an elector knows -/

/-- An elector that has a manager leads exactly if the manager has told that it holds the lease. One
that has none yet, or none any more, does not lead. -/
def Informed (c : Candidate) : Prop :=
  match c.elector.phase with
  | .preparing => c.elector.leadership.leading = false ∧ c.manager.leading = false
  | .electing | .releasing _ => c.elector.leadership.leading = c.manager.leading
  | .stopped _ => c.elector.leadership.leading = false

theorem informed_entering (config : Config) {l : Leadership} (h : l.leading = false) (now : Nat) :
    (entering config l now).Informed :=
  ⟨h, rfl⟩

/-- An elector that elects takes note of what its manager tells. -/
theorem informed_react {c : Candidate} (hphase : c.elector.phase = .electing) {o : Occurrence}
    (h : (Phase.electing.lead? o).getD c.elector.leadership.leading = c.manager.leading) :
    (c.react o).value.Informed := by
  rw [value_react, Informed, Elector.phase_react, Elector.leading_react, hphase, h]
  cases o <;> rfl

theorem Informed.manage {c : Candidate} (h : c.Informed) (hphase : c.elector.phase = .electing)
    (now : Nat) (s : Server) : (c.manage now s).value.1.Informed := by
  have hleading : c.elector.leadership.leading = c.manager.leading := by
    rw [Informed, hphase] at h
    exact h
  unfold Candidate.manage
  have hlook : (c.manager.look c.config c.elector.leadership.identity now s).2.1.leading
      = (c.manager.look c.config c.elector.leadership.identity now s).1.getD c.manager.leading :=
    Manager.leading_look
  generalize c.manager.look c.config c.elector.leadership.identity now s = looked at hlook
  obtain ⟨told, manager, s'⟩ := looked
  cases told with
  | some leading =>
      refine informed_react (c := { c with manager }) hphase (o := .told leading _) ?_
      exact hlook.symm
  | none =>
      -- The manager has told nothing, so nothing has changed.
      have hsame : c.elector.leadership.leading = manager.leading := hleading.trans hlook.symm
      cases hactivity : manager.activity with
      | brokenDown =>
          simp only [hactivity]
          exact informed_react (c := { c with manager, released := some .brokenDown }) hphase
            (o := .abandoned _) hsame
      | _ =>
          simp only [hactivity, Reported.value_pure, Informed, hphase]
          exact hsame

theorem Informed.step {c c' : Candidate} {now : Nat} {s s' : Server}
    (hstep : Steps c now s c' s') (h : c.Informed) : c'.Informed := by
  cases hstep with
  | prepares hphase =>
      -- Neither the elector nor the manager leads yet.
      rw [Informed, hphase] at h
      have hleading := c.elector.leading_react (c.prepare s).1
      rw [value_react, Informed, Elector.phase_react, hleading, hphase]
      cases (c.prepare s).1 with
      | prepared => exact h.1.trans h.2.symm
      | unprepared reason => exact h.1
      | _ => exact h
  | cancels hphase hcancelled =>
      rw [Informed, hphase] at h
      exact informed_react hphase h
  | looks hphase hdue =>
      rw [Informed, hphase] at h
      exact informed_react hphase h
  | manages hphase hdue => exact h.manage hphase now s
  | ends hphase hreleased =>
      -- Only here the elector takes the lead away.
      rw [value_react, Informed, Elector.phase_react, Elector.leading_react, hphase]
      rfl
  | closes hphase hreleased hclose => exact h

/-- Whatever happens, an elector knows what its manager has told. -/
theorem informed_meetAll (config : Config) {l : Leadership} (hl : l.leading = false) (now : Nat)
    (s : Server) (es : List Event) : (meetAll (entering config l now, s) es).1.Informed :=
  meetAll_invariant (P := Informed) Informed.step (fun _ h => h)
    (x := (entering config l now, s)) (informed_entering config hl now) es

/-! ### The lead of a candidate that has given up -/

/-- A manager that has been let go tells nothing any more, whatever happens. -/
theorem manager_meetAll {x : Candidate × Server} (hx : x.1.elector.phase.hasGivenUp = true)
    (es : List Event) : (meetAll x es).1.manager = x.1.manager := by
  have hkept : (meetAll x es).1.elector.phase.hasGivenUp = true
      ∧ (meetAll x es).1.manager = x.1.manager := by
    refine meetAll_invariant (P := fun c => c.elector.phase.hasGivenUp = true
      ∧ c.manager = x.1.manager) (fun {c now s c' s'} hstep h => ?_) (fun c h => h) ⟨hx, rfl⟩ es
    cases hstep with
    | ends hphase hreleased =>
        rw [value_react, Elector.phase_react, hphase]
        exact ⟨rfl, h.2⟩
    | closes hphase hreleased hclose => exact h
    | prepares hphase => simp [hphase, Phase.hasGivenUp] at h
    | cancels hphase hcancelled => simp [hphase, Phase.hasGivenUp] at h
    | looks hphase hdue => simp [hphase, Phase.hasGivenUp] at h
    | manages hphase hdue => simp [hphase, Phase.hasGivenUp] at h
  exact hkept.2

/-- A candidate that has given up the lease leads if and only if its manager has told that it holds
the lease, and the elector has not seen yet that the manager has ended. -/
theorem Informed.leadsGivenUp_iff_isReleasing {c : Candidate} (h : c.Informed) :
    c.elector.LeadsGivenUp
      ↔ c.elector.phase.isReleasing = true ∧ c.manager.leading = true := by
  rw [Elector.LeadsGivenUp]
  unfold Informed at h
  cases hphase : c.elector.phase with
  | preparing => simp [Phase.hasGivenUp, Phase.isReleasing]
  | electing => simp [Phase.hasGivenUp, Phase.isReleasing]
  | releasing result =>
      rw [hphase] at h
      simp [Phase.hasGivenUp, Phase.isReleasing, h]
  | stopped result =>
      rw [hphase] at h
      simp [Phase.isReleasing, h]

/-- When a pod that did not lead at first leads although its elector has given up the lease:

- whatever its manager tells in the course of an election, and however that goes on, exactly if it
  gives up a lead and does not see the end of its manager;
- as a candidate, whatever happens to it and to the server, exactly if its manager has told that it
  holds the lease and the elector has not seen yet that the manager has ended. -/
theorem leadsGivenUp_iff (config : Config) {l : Leadership} (hl : l.leading = false) :
    (∀ course, (Elector.run { leadership := l } course).value.LeadsGivenUp
        ↔ Elector.GivesUpLead course)
      ∧ ∀ now s es, (meetAll (entering config l now, s) es).1.elector.LeadsGivenUp
        ↔ (meetAll (entering config l now, s) es).1.elector.phase.isReleasing = true
          ∧ (meetAll (entering config l now, s) es).1.manager.leading = true :=
  ⟨Elector.leadsGivenUp_run_iff hl, fun now s es =>
    (informed_meetAll config hl now s es).leadsGivenUp_iff_isReleasing⟩

/-! ### Two leaders -/

/-- A lease for which some pods stand. -/
def leaseConfig : Config where
  name := "lock"
  namespaceName := "kube-system"

/-- A server with this lease, which the first pod has held before. -/
def heldServer : Server :=
  Server.put {} .lease (Lease.given "kube-system" "lock" (some "ingress-0") false)

/-- A pod leads, is told to end and gives up the lease, which its manager frees. -/
def resigning : List Event :=
  List.replicate 3 (.step 0) ++ .cancel :: [.step 0, .step 0]

/-- The first pod after this. -/
def resigned : Candidate × Server :=
  meetAll (entering leaseConfig { identity := "ingress-0" } 0, heldServer) resigning

/-- The second pod, which has taken the lease meanwhile. -/
def succeeded : Candidate × Server :=
  meetAll (entering leaseConfig { identity := "ingress-1" } 0, resigned.2)
    (List.replicate 4 (.step 0))

/-- The first pod has given up the lease, another has taken it, and both lead. As far as the first
one can tell, all that has happened is that it held the lease and was told to end. -/
theorem leadsGivenUp_of_resigned :
    resigned.1.elector.LeadsGivenUp ∧ succeeded.1.elector.leadership.leading = true
      ∧ resigned.1.holder? succeeded.2 = some "ingress-1"
      ∧ (Elector.run { leadership := { identity := "ingress-0" } }
        [.prepared, .told true (some "ingress-0"), .cancelled]).value.LeadsGivenUp := by
  have hrun : (resigned.1.elector.phase.isReleasing = true ∧ resigned.1.manager.leading = true)
      ∧ succeeded.1.elector.leadership.leading = true
      ∧ resigned.1.holder? succeeded.2 = some "ingress-1" := by
    decide +kernel
  obtain ⟨helector, hcandidate⟩ :=
    leadsGivenUp_iff leaseConfig (l := { identity := "ingress-0" }) rfl
  have hleads := hcandidate 0 heldServer resigning
  rw [← resigned] at hleads
  refine ⟨hleads.mpr hrun.1, hrun.2.1, hrun.2.2, (helector _).mpr ?_⟩
  exact ⟨[], [.told true (some "ingress-0")], .cancelled, [], rfl, by simp,
    by simp [Occurrence.isExit], rfl, by simp, rfl⟩

end Candidate

end IngressController.Election
