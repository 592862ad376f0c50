import IngressController.Election.Elector
import IngressController.Proofs.Leadership

/-!
# `IngressController.Proofs.Election.Elector`: what an elector does to the leadership

An elector goes from phase to phase, and meanwhile changes the leadership of its pod by calls. Both
depend on its phase and on what happens, and on nothing else: `Elector.value_react` says so, and
what follows is read off from the phases (`Phase.after`) and the calls (`Phase.calls`).

* `Elector.exists_calls_run`: in every course of an election the leadership changes by calls only,
  so what holds of all calls holds of all elections.
* `Elector.Settled`: an elector that has not begun or has ended does not lead. It is `Settled` again
  after everything that happens, since the last thing that an elector does before it ends is to take
  the leadership away.
* `Elector.leadsGivenUp_run_iff`: but it does so only then. An elector that has let its manager go
  still leads if the manager had told so last, until it sees that the manager has ended.
* `accountable_of_calls`: the history of the leadership after any calls, and in any election.
-/

set_option autoImplicit false

namespace IngressController.Election

open Leadership

/-! ### Phases and calls -/

/-- The phase of an elector after something has happened. -/
def Phase.after (p : Phase) (o : Occurrence) : Phase :=
  match p, o with
  | preparing, .prepared => electing
  | preparing, .unprepared reason => stopped (.error (.leaderElection reason))
  | electing, .abandoned reason => releasing (.error (.leaderElection reason))
  | electing, .cancelled => releasing (.ok ())
  | releasing result, .released _ => stopped result
  | p, _ => p

/-- What an elector tells about the leader that it sees. -/
def sightings (holder : Option String) : List Call :=
  (holder.map Call.observe).toList

/-- The calls of an elector in a phase when something happens. -/
def Phase.calls (p : Phase) (o : Occurrence) : List Call :=
  match p, o with
  | electing, .told leading holder => .setLeading leading :: sightings holder
  | electing, .looked holder => sightings holder
  | releasing _, .released _ => [.setLeading false]
  | _, _ => []

/-- What an elector in a phase is told about its lead when something happens. -/
def Phase.lead? (p : Phase) (o : Occurrence) : Option Bool :=
  match p, o with
  | electing, .told leading _ => some leading
  | releasing _, .released _ => some false
  | _, _ => none

namespace Elector

/-- An elector after some calls. -/
def call (e : Elector) (calls : List Call) : Elector :=
  { e with
    leadership := (e.leadership.performAll calls).1
    events := e.events ++ (e.leadership.performAll calls).2 }

theorem call_nil (e : Elector) : e.call [] = e := by
  rw [call, performAll, List.append_nil]

theorem call_append (e : Elector) (calls calls' : List Call) :
    e.call (calls ++ calls') = (e.call calls).call calls' := by
  simp only [call, performAll_append, List.append_assoc]

theorem call_singleton (e : Elector) (c : Call) :
    e.call [c] = { e with
      leadership := (e.leadership.perform c).1
      events := e.events ++ (e.leadership.perform c).2 } := by
  simp only [call, performAll, List.append_nil]

theorem value_setLeading (e : Elector) (leading : Bool) :
    (e.setLeading leading).value = e.call [.setLeading leading] :=
  (e.call_singleton (.setLeading leading)).symm

theorem value_observe (e : Elector) (holder : Option String) :
    (e.observe holder).value = e.call (sightings holder) := by
  cases holder with
  | none => exact e.call_nil.symm
  | some holder => exact (e.call_singleton (.observe holder)).symm

/-- An elector reacts by some calls and a change of its phase. -/
theorem value_react (e : Elector) (o : Occurrence) :
    (e.react o).value = { e.call (e.phase.calls o) with phase := e.phase.after o } := by
  obtain ⟨leadership, phase, events⟩ := e
  -- An elector that makes no calls keeps its leadership as it is.
  have hnone : ∀ p : Phase, (⟨leadership, p, events⟩ : Elector)
      = { (⟨leadership, phase, events⟩ : Elector).call [] with phase := p } := by
    intro p
    rw [call_nil]
  cases phase with
  | preparing => cases o <;> exact hnone _
  | stopped result => cases o <;> exact hnone _
  | electing =>
      cases o with
      | told leading holder =>
          show (((Elector.setLeading leading _).value).observe holder).value = _
          rw [value_setLeading, value_observe, ← call_append]
          rfl
      | looked holder =>
          show (Elector.observe holder _).value = _
          rw [value_observe]
          rfl
      | _ => exact hnone _
  | releasing result =>
      cases o with
      | released ending =>
          show ({ (Elector.setLeading false _).value with phase := .stopped result } : Elector) = _
          rw [value_setLeading]
          rfl
      | _ => exact hnone _

@[simp] theorem phase_react (e : Elector) (o : Occurrence) :
    (e.react o).value.phase = e.phase.after o := by
  rw [value_react]

theorem leading_call_sightings (e : Elector) (holder : Option String) :
    (e.call (sightings holder)).leadership.leading = e.leadership.leading := by
  cases holder with
  | none => rfl
  | some holder => exact (e.leadership.sees_observe holder).leading_eq

/-- An elector leads if it is told so, and as before if it is told nothing. -/
theorem leading_react (e : Elector) (o : Occurrence) :
    (e.react o).value.leadership.leading = (e.phase.lead? o).getD e.leadership.leading := by
  rw [value_react]
  obtain ⟨leadership, phase, events⟩ := e
  cases phase with
  | preparing => rfl
  | stopped result => rfl
  | electing =>
      cases o with
      | told leading holder =>
          show (Elector.call _ ([.setLeading leading] ++ sightings holder)).leadership.leading = _
          rw [call_append, leading_call_sightings]
          exact (leadership.sets_setLeading leading).leading_eq
      | looked holder => exact leading_call_sightings _ holder
      | _ => rfl
  | releasing result =>
      cases o with
      | released ending => exact (leadership.sets_setLeading false).leading_eq
      | _ => rfl

/-! ### Courses -/

@[simp] theorem value_run_nil (e : Elector) : (e.run []).value = e := rfl

@[simp] theorem value_run_cons (e : Elector) (o : Occurrence) (course : List Occurrence) :
    (e.run (o :: course)).value = ((e.react o).value.run course).value := rfl

@[simp] theorem value_run_append (e : Elector) (course course' : List Occurrence) :
    (e.run (course ++ course')).value = ((e.run course).value.run course').value := by
  induction course generalizing e with
  | nil => rfl
  | cons o course ih => exact ih (e.react o).value

/-- In every course of an election an elector changes the leadership by calls only. -/
theorem exists_calls_run (e : Elector) (course : List Occurrence) :
    ∃ calls, (e.run course).value.leadership = (e.call calls).leadership
      ∧ (e.run course).value.events = (e.call calls).events := by
  induction course generalizing e with
  | nil => exact ⟨[], by simp [call_nil]⟩
  | cons o course ih =>
      obtain ⟨calls, hleadership, hevents⟩ := ih (e.react o).value
      refine ⟨e.phase.calls o ++ calls, ?_⟩
      rw [value_run_cons, hleadership, hevents, value_react, call_append]
      exact ⟨rfl, rfl⟩

/-- In every course of an election the history goes on as before. -/
theorem recounts_run {e : Elector} (h : Recounts e.events e.leadership)
    (course : List Occurrence) :
    Recounts (e.run course).value.events (e.run course).value.leadership := by
  obtain ⟨calls, hleadership, hevents⟩ := e.exists_calls_run course
  rw [hleadership, hevents]
  exact h.performAll calls

/-! ### Before and after an election -/

/-- An elector that has not begun to elect or has ended does not lead. -/
def Settled (e : Elector) : Prop :=
  match e.phase with
  | .preparing | .stopped _ => e.leadership.leading = false
  | _ => True

/-- Whatever happens to an elector, it does not lead before it elects and after it has ended. -/
theorem Settled.react {e : Elector} (h : e.Settled) (o : Occurrence) :
    (e.react o).value.Settled := by
  have hleading := e.leading_react o
  rw [Settled, phase_react, hleading]
  rw [Settled] at h
  cases hphase : e.phase with
  | preparing =>
      rw [hphase] at h
      cases o with
      | prepared => trivial
      | _ => exact h
  | electing => cases o <;> trivial
  | releasing result => cases o <;> trivial
  | stopped result =>
      rw [hphase] at h
      exact h

theorem Settled.run {e : Elector} (h : e.Settled) (course : List Occurrence) :
    (e.run course).value.Settled := by
  induction course generalizing e with
  | nil => exact h
  | cons o course ih => exact ih (h.react o)

/-- An elector that has ended does not lead. -/
theorem Settled.leading_of_result {e : Elector} (h : e.Settled)
    {result : Except Status.Error Unit} (hresult : e.result? = some result) :
    e.leadership.leading = false := by
  unfold result? at hresult
  split at hresult
  · next hphase =>
      rw [Settled, hphase] at h
      exact h
  · cases hresult

end Elector

/-! ### Giving up the lease -/

/-- Whether an elector has let its manager go, and not seen yet that it has ended. -/
def Phase.isReleasing : Phase → Bool
  | .releasing _ => true
  | _ => false

/-- Whether an elector has let its manager go, or has none any more. -/
def Phase.hasGivenUp : Phase → Bool
  | .releasing _ | .stopped _ => true
  | _ => false

namespace Occurrence

/-- Whether the preparations end: there is a manager, or there will be none. -/
def isStart : Occurrence → Bool
  | prepared | unprepared _ => true
  | _ => false

/-- Whether an elector that elects gives up the lease. -/
def isExit : Occurrence → Bool
  | cancelled | abandoned _ => true
  | _ => false

/-- Whether the manager has ended. -/
def isRelease : Occurrence → Bool
  | released _ => true
  | _ => false

/-- What the manager tells about the lease. -/
def told? : Occurrence → Option Bool
  | told leading _ => some leading
  | _ => none

end Occurrence

namespace Elector

/-- An elector is in a phase and leads or not. -/
def Stands (e : Elector) (p : Phase) (leading : Bool) : Prop :=
  e.phase = p ∧ e.leadership.leading = leading

/-- An elector has given up the lease and leads. -/
def LeadsGivenUp (e : Elector) : Prop :=
  e.phase.hasGivenUp = true ∧ e.leadership.leading = true

/-- A course of an election in which the elector gives up a lease that is its own, as far as it
knows, and that goes on to before the manager has ended: the preparations end with a manager, the
last thing that the manager tells is that it holds the lease, and then the elector is told to end or
the manager falls silent. -/
def GivesUpLead (course : List Occurrence) : Prop :=
  ∃ start watched exit rest, course = start ++ .prepared :: (watched ++ exit :: rest)
    ∧ (∀ o ∈ start, o.isStart = false)
    ∧ (∀ o ∈ watched, o.isExit = false) ∧ exit.isExit = true
    ∧ (∀ o ∈ rest, o.isRelease = false)
    ∧ (watched.filterMap Occurrence.told?).getLast? = some true

section Stands

variable {e : Elector} {p : Phase} {leading : Bool} {course : List Occurrence}

theorem Stands.react (h : e.Stands p leading) (o : Occurrence) :
    (e.react o).value.Stands (p.after o) ((p.lead? o).getD leading) := by
  obtain ⟨rfl, rfl⟩ := h
  exact ⟨e.phase_react o, e.leading_react o⟩

/-- An elector stays in a phase that nothing ends, and leads if it has been told so last. -/
theorem Stands.run (h : e.Stands p leading) (hstays : ∀ o ∈ course, p.after o = p) :
    (e.run course).value.Stands p ((course.filterMap p.lead?).getLast?.getD leading) := by
  induction course generalizing e leading with
  | nil => exact h
  | cons o course ih =>
      obtain ⟨ho, hcourse⟩ := List.forall_mem_cons.mp hstays
      have hreact := h.react o
      rw [ho] at hreact
      have hrun := ih hreact hcourse
      rw [value_run_cons, List.filterMap_cons]
      cases hlead : p.lead? o with
      | none =>
          rw [hlead] at hrun
          exact hrun
      | some told =>
          rw [hlead] at hrun
          simpa [List.getLast?_cons] using hrun

/-- An elector that is told nothing about its lead either leads as before. -/
theorem Stands.run_silent (h : e.Stands p leading)
    (hsilent : ∀ o ∈ course, p.after o = p ∧ p.lead? o = none) :
    (e.run course).value.Stands p leading := by
  have hrun := h.run fun o ho => (hsilent o ho).1
  rwa [List.filterMap_eq_nil_iff.mpr fun o ho => (hsilent o ho).2] at hrun

theorem Stands.run_preparing (h : e.Stands .preparing leading)
    (hstart : ∀ o ∈ course, o.isStart = false) :
    (e.run course).value.Stands .preparing leading := by
  refine h.run_silent fun o ho => ?_
  have hnone := hstart o ho
  cases o with
  | prepared | unprepared reason => cases hnone
  | _ => exact ⟨rfl, rfl⟩

theorem Stands.run_electing (h : e.Stands .electing leading)
    (hexit : ∀ o ∈ course, o.isExit = false) :
    (e.run course).value.Stands .electing
      ((course.filterMap Occurrence.told?).getLast?.getD leading) := by
  have htold : Phase.electing.lead? = Occurrence.told? := by
    funext o
    cases o <;> rfl
  rw [← htold]
  refine h.run fun o ho => ?_
  have hnone := hexit o ho
  cases o with
  | cancelled | abandoned reason => cases hnone
  | _ => rfl

theorem Stands.run_releasing {result : Except Status.Error Unit}
    (h : e.Stands (.releasing result) leading) (hrelease : ∀ o ∈ course, o.isRelease = false) :
    (e.run course).value.Stands (.releasing result) leading := by
  refine h.run_silent fun o ho => ?_
  have hnone := hrelease o ho
  cases o with
  | released ending => cases hnone
  | _ => exact ⟨rfl, rfl⟩

theorem Stands.run_stopped {result : Except Status.Error Unit}
    (h : e.Stands (.stopped result) leading) (course : List Occurrence) :
    (e.run course).value.Stands (.stopped result) leading :=
  h.run_silent fun _ _ => ⟨rfl, rfl⟩

theorem Stands.givenUp_iff (h : e.Stands p leading) :
    e.LeadsGivenUp ↔ p.hasGivenUp = true ∧ leading = true := by
  obtain ⟨rfl, rfl⟩ := h
  exact Iff.rfl

end Stands

/-- A list is cut at its first member of some kind, if it has one. -/
theorem all_or_exists_first (p : Occurrence → Bool) (course : List Occurrence) :
    (∀ o ∈ course, p o = false)
      ∨ ∃ before o after, course = before ++ o :: after ∧ (∀ o' ∈ before, p o' = false)
        ∧ p o = true := by
  cases hfind : course.find? p with
  | none => exact .inl (by simpa using hfind)
  | some o =>
      obtain ⟨ho, before, after, hcourse, hbefore⟩ := List.find?_eq_some_iff_append.mp hfind
      exact .inr ⟨before, o, after, hcourse, by simpa using hbefore, ho⟩

section GivingUp

variable {e : Elector} {leading : Bool}

/-- An elector that waits for the end of its manager leads as before until then. -/
theorem Stands.leadsGivenUp_of_releasing {result : Except Status.Error Unit}
    (h : e.Stands (.releasing result) leading) (course : List Occurrence) :
    (e.run course).value.LeadsGivenUp
      ↔ (∀ o ∈ course, o.isRelease = false) ∧ leading = true := by
  obtain hnone | ⟨before, o, after, rfl, hbefore, ho⟩ :=
    all_or_exists_first Occurrence.isRelease course
  · rw [(h.run_releasing hnone).givenUp_iff]
    exact and_congr_left' (iff_of_true rfl hnone)
  · -- The manager has ended, and the elector has been told that it does not lead.
    cases o with
    | released ending =>
        have hstopped := ((h.run_releasing hbefore).react (.released ending)).run_stopped after
        rw [value_run_append, value_run_cons, hstopped.givenUp_iff]
        refine iff_of_false (fun hleads => Bool.false_ne_true hleads.2) fun hall => ?_
        exact Bool.false_ne_true (hall.1 (.released ending) (by simp)).symm
    | _ => cases ho

/-- An elector that gives up the lease leads until its manager has ended if it was told so last. -/
theorem Stands.leadsGivenUp_of_exit (h : e.Stands .electing false)
    {watched rest : List Occurrence} {exit : Occurrence}
    (hwatched : ∀ o ∈ watched, o.isExit = false) (hexit : exit.isExit = true) :
    (e.run (watched ++ exit :: rest)).value.LeadsGivenUp
      ↔ (∀ o ∈ rest, o.isRelease = false)
        ∧ (watched.filterMap Occurrence.told?).getLast? = some true := by
  have hleads : (watched.filterMap Occurrence.told?).getLast?.getD false = true
      ↔ (watched.filterMap Occurrence.told?).getLast? = some true := by
    cases (watched.filterMap Occurrence.told?).getLast? <;> simp
  rw [value_run_append, value_run_cons, ← hleads]
  have hreact := (h.run_electing hwatched).react exit
  cases exit with
  | cancelled | abandoned reason => exact hreact.leadsGivenUp_of_releasing rest
  | _ => cases hexit

/-- In every course of an election of a pod that did not lead at first, the elector has given up the
lease and leads if and only if the course is one in which it gives up a lead and does not see the
end of its manager. -/
theorem leadsGivenUp_run_iff {l : Leadership} (hl : l.leading = false)
    (course : List Occurrence) :
    (run { leadership := l } course).value.LeadsGivenUp ↔ GivesUpLead course := by
  have hbegin : Stands { leadership := l } .preparing false := ⟨rfl, hl⟩
  constructor
  · intro hleads
    -- The course is cut where the preparations end, and then where the elector gives up.
    obtain hnone | ⟨start, first, after, rfl, hstart, hfirst⟩ :=
      all_or_exists_first Occurrence.isStart course
    · exact absurd ((hbegin.run_preparing hnone).givenUp_iff.mp hleads).2 Bool.false_ne_true
    have hreact := (hbegin.run_preparing hstart).react first
    rw [value_run_append, value_run_cons] at hleads
    cases first with
    | prepared =>
        obtain hnone | ⟨watched, exit, rest, rfl, hwatched, hexit⟩ :=
          all_or_exists_first Occurrence.isExit after
        · exact absurd ((hreact.run_electing hnone).givenUp_iff.mp hleads).1
            Bool.false_ne_true
        · obtain ⟨hrest, htold⟩ := (hreact.leadsGivenUp_of_exit hwatched hexit).mp hleads
          exact ⟨start, watched, exit, rest, rfl, hstart, hwatched, hexit, hrest, htold⟩
    | unprepared reason =>
        exact absurd ((hreact.run_stopped after).givenUp_iff.mp hleads).2
          Bool.false_ne_true
    | _ => cases hfirst
  · rintro ⟨start, watched, exit, rest, rfl, hstart, hwatched, hexit, hrest, htold⟩
    have hreact := (hbegin.run_preparing hstart).react .prepared
    rw [value_run_append, value_run_cons]
    exact (hreact.leadsGivenUp_of_exit hwatched hexit).mpr ⟨hrest, htold⟩

end GivingUp

end Elector

/-! ### The history of a leadership -/

/-- The history of the leadership of a pod is what it should be:

- `recounts`: the changes that have been told tell what the pod knows;
- `itself`: when the pod tells that it has begun to lead, it sees itself as the leader;
- `elected`: the history goes on like this in every course of an election;
- `ended`: once an election has ended in which the pod did not lead at first, it does not lead. -/
structure Accountable (identity : String) (events : List Event) (l : Leadership) : Prop where
  recounts : Recounts events l
  itself : ∀ c, .started ∈ (l.perform c).2 → identity ≠ "" → (l.perform c).1.leader = identity
  elected : ∀ course, Recounts (Elector.run { leadership := l, events } course).value.events
    (Elector.run { leadership := l, events } course).value.leadership
  ended : l.leading = false → ∀ course result,
    (Elector.run { leadership := l } course).value.result? = some result →
    (Elector.run { leadership := l } course).value.leadership.leading = false

/-- The history of the leadership of a pod is what it should be, whatever calls have been made. -/
theorem accountable_of_calls (identity : String) (calls : List Call) :
    Accountable identity (performAll { identity } calls).2 (performAll { identity } calls).1 := by
  have hrecounts : Recounts (performAll { identity } calls).2 (performAll { identity } calls).1 :=
    (Recounts.nil identity).performAll calls
  have hidentity : (performAll { identity } calls).1.identity = identity :=
    identity_performAll { identity } calls
  generalize (performAll { identity } calls).1 = l at hrecounts hidentity
  generalize (performAll { identity } calls).2 = events at hrecounts
  refine
    { recounts := hrecounts
      itself := fun c hstarted hname => ?_
      elected := fun course => Elector.recounts_run hrecounts course
      ended := fun hquiet course result hresult => ?_ }
  · rw [← hidentity] at hname ⊢
    exact l.leader_of_started hstarted hname
  · have hsettled : Elector.Settled { leadership := l } := hquiet
    exact (hsettled.run course).leading_of_result hresult

/-- An election of a pod that has led and that ends when it is told to. -/
example : (Elector.run { leadership := { identity := "ingress-0" } }
    [.prepared, .told true (some "ingress-0"), .cancelled, .released .clean]).value.events
      = [.started, .newLeader "ingress-0", .stopped] := by
  decide +kernel

end IngressController.Election
