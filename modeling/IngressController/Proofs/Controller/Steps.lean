import IngressController.Controller.Basic
import IngressController.Proofs.Election.Candidate

/-!
# `IngressController.Proofs.Controller.Steps`: what a step of the controller is

The tasks of the controller take turns. In each turn a task does the next thing that it has to do,
and what this is depends on the task, and for the main task on its stage. `Steps` has a case for
each, with the guards under which it is done, and `steps_of_step` says that there are no others.
What holds of all steps is proved by these cases, and of all runs by `meetAll_invariant`.

The environment is as free as it can be: the tasks take turns in any order and at any times, signals
come, and in between everything on the server and in the stores can change.
-/

set_option autoImplicit false

namespace IngressController.Controller

open Object Api Election Status

/-! ### Turns -/

/-- What a turn of a task can be, at a time. -/
inductive Steps (now : Nat) (c : Controller) : Task → Controller → Prop where
  /-- A store is filled. -/
  | reflects {kind : Kind} {reflectors : List Reflector} {site : Site}
      (hfound : (reflectKind kind now c.site c.reflectors).value = some (reflectors, site)) :
      Steps now c (.reflector kind) { c with reflectors, site }
  /-- A configuration pass is made. -/
  | configures {configuration : Configuration} {ticker : Option Ticker} :
      Steps now c .configuration { c with configuration, ticker }
  /-- The run of the status passes goes on. -/
  | keeps {position : Nat} {tasks : StatusTasks} (hstatus : c.status = some tasks)
      (hdue : tasks.passes.isDue now = true) :
      Steps now c (.passes position)
        (c.onPasses tasks (Host.step Site.surroundings tasks.setting now position)).value
  /-- The candidate goes on. -/
  | elects {tasks : StatusTasks} {candidate : Candidate} {server : Server}
      (hstatus : c.status = some tasks)
      (hstep : Candidate.Steps tasks.candidate now c.site.server candidate server) :
      Steps now c .candidate
        { c with
          site := { c.site with server }
          status := some { tasks with
            candidate
            passes := { tasks.passes with leadership := candidate.elector.leadership } } }
  /-- There is no access to a cluster. -/
  | givesUp {position : Nat} (hstage : c.stage = .starting) (hclient : c.setup.hasClient = false) :
      Steps now c (.main position) (c.goOn (.ended (.error .noClient)))
  /-- The reflectors are started. -/
  | starts {position : Nat} {reflectors : List Reflector} {stores : Stores}
      (hstage : c.stage = .starting) :
      Steps now c (.main position)
        { c with reflectors, stage := .waitingForStores, site := { c.site with stores } }
  /-- All stores are filled. -/
  | serves {position : Nat} {stores : Stores} {ticker : Option Ticker} {stage : Stage}
      (hstage : c.stage = .waitingForStores) (hnext : stage = .identifying ∨ stage = .serving) :
      Steps now c (.main position) { c with stage, site := { c.site with stores }, ticker }
  /-- The pod of the controller is looked for. -/
  | identifies {position : Nat} (hstage : c.stage = .identifying) :
      Steps now c (.main position) (c.identify now).value
  /-- The controller begins to shut down, without an error only for a signal. -/
  | shutsDown {position : Nat} {outcome : Outcome} (hstage : c.stage = .serving)
      (hcause : outcome = .ok () → c.signal.isSome = true) :
      Steps now c (.main position)
        { c with
          stage := .withdrawing outcome
          status := c.status.map fun tasks =>
            { tasks with passes := tasks.passes.beginShutdown tasks.setting } }
  /-- The withdrawal goes on. -/
  | withdraws {position : Nat} {outcome : Outcome} {tasks : StatusTasks}
      (hstage : c.stage = .withdrawing outcome) (hstatus : c.status = some tasks)
      (hunder : tasks.passes.isWithdrawing = true) :
      Steps now c (.main position)
        (c.onPasses tasks (Host.stepWithdrawal Site.surroundings position)).value
  /-- The withdrawal has ended. -/
  | withdrawn {position : Nat} {outcome : Outcome} (hstage : c.stage = .withdrawing outcome)
      (hended : ∀ tasks, c.status = some tasks → tasks.passes.isWithdrawing = false) :
      Steps now c (.main position) (c.goOn (.endingPasses outcome))
  /-- The run of the status passes has ended, and all tasks that are left are told to end. -/
  | cancels {position : Nat} {outcome : Outcome} (hstage : c.stage = .endingPasses outcome)
      (hended : c.passesEnded = true) :
      Steps now c (.main position) (c.cancel outcome)
  /-- The election has ended. -/
  | finishes {position : Nat} {outcome : Outcome} (hstage : c.stage = .endingElection outcome)
      (hended : c.electionEnded = true) :
      Steps now c (.main position) (c.goOn (.ended outcome))

variable {now : Nat} {c c' : Controller}

theorem steps_of_reflect {kind : Kind} (h : (c.reflect kind now).value = some c') :
    Steps now c (.reflector kind) c' := by
  obtain ⟨⟨reflectors, site⟩, hfound, rfl⟩ := Option.map_eq_some_iff.mp h
  exact .reflects hfound

theorem steps_of_configure (h : (c.configure now).value = some c') :
    Steps now c .configuration c' := by
  unfold configure at h
  split at h
  · split at h
    · cases h
      exact .configures
    · cases h
  · cases h

theorem steps_of_keepStatus {position : Nat} (h : (c.keepStatus position now).value = some c') :
    Steps now c (.passes position) c' := by
  unfold keepStatus at h
  split at h
  · next tasks hstatus =>
      split at h
      · next hdue =>
          cases h
          exact .keeps hstatus hdue
      · cases h
  · cases h

theorem steps_of_elect (h : (c.elect now).value = some c') : Steps now c .candidate c' := by
  unfold elect at h
  split at h
  · next tasks hstatus =>
      rw [Reported.value_bind] at h
      split at h
      · next candidate server hstep =>
          cases h
          exact .elects hstatus (Candidate.steps_of_step hstep)
      · cases h
  · cases h

theorem steps_start (position : Nat) (hstage : c.stage = .starting) :
    Steps now c (.main position) (c.start now).value := by
  unfold start
  rw [Reported.value_bind]
  split
  · next hclient => exact .givesUp hstage (by simpa using hclient)
  · exact .starts hstage

theorem steps_serve (position : Nat) (hstage : c.stage = .waitingForStores) :
    Steps now c (.main position) (c.serve now).value := by
  unfold serve
  rw [Reported.value_bind]
  split
  · simp only
    split <;> exact .serves hstage (Or.inl rfl)
  · simp only
    split <;> exact .serves hstage (Or.inr rfl)

theorem steps_of_shutDown {position : Nat} (hstage : c.stage = .serving)
    (h : c.shutDown?.value = some c') : Steps now c (.main position) c' := by
  unfold shutDown? at h
  simp only at h
  split at h
  · next signal hsignal =>
      cases h
      exact .shutsDown hstage fun _ => by rw [hsignal]; rfl
  · cases h
    exact .shutsDown hstage fun h => nomatch h
  · cases h

theorem steps_withdraw (position : Nat) {outcome : Outcome}
    (hstage : c.stage = .withdrawing outcome) :
    Steps now c (.main position) (c.withdraw outcome position).value := by
  unfold withdraw
  split
  · next tasks hstatus =>
      split
      · next hunder => exact .withdraws hstage hstatus hunder
      · next hended =>
          refine .withdrawn hstage fun tasks' hstatus' => ?_
          rw [hstatus] at hstatus'
          cases hstatus'
          simpa using hended
  · next hstatus =>
      refine .withdrawn hstage fun tasks hsome => ?_
      rw [hstatus] at hsome
      cases hsome

theorem value_finish (outcome : Outcome) : (c.finish outcome).value = c.goOn (.ended outcome) := by
  unfold finish
  split <;> (simp only; split <;> rfl)

theorem steps_of_lead {position : Nat} (h : (c.lead position now).value = some c') :
    Steps now c (.main position) c' := by
  unfold lead at h
  cases hstage : c.stage with
  | starting =>
      simp only [hstage] at h
      cases h
      exact steps_start position hstage
  | waitingForStores =>
      simp only [hstage] at h
      split at h
      · cases h
        exact steps_serve position hstage
      · cases h
  | identifying =>
      simp only [hstage] at h
      cases h
      exact .identifies hstage
  | serving =>
      simp only [hstage] at h
      exact steps_of_shutDown hstage h
  | withdrawing outcome =>
      simp only [hstage] at h
      cases h
      exact steps_withdraw position hstage
  | endingPasses outcome =>
      simp only [hstage, Reported.value_pure] at h
      split at h
      · next hended =>
          cases h
          exact .cancels hstage hended
      · cases h
  | endingElection outcome =>
      simp only [hstage] at h
      split at h
      · next hended =>
          have hvalue : (c.finish outcome).value = c' := Option.some.inj h
          rw [value_finish] at hvalue
          rw [← hvalue]
          exact .finishes hstage hended
      · cases h
  | ended outcome =>
      simp only [hstage] at h
      cases h

/-- A turn of a task is one of these. -/
theorem steps_of_step {task : Task} (h : (step now task c).value = some c') :
    Steps now c task c' := by
  cases task with
  | reflector kind => exact steps_of_reflect h
  | main position => exact steps_of_lead h
  | configuration => exact steps_of_configure h
  | passes position => exact steps_of_keepStatus h
  | candidate => exact steps_of_elect h

/-- To find out which pod it is makes the controller serve with a new candidate, or give up. -/
theorem identify_cases (now : Nat) (c : Controller) :
    (∃ site tasks, tasks.candidate.cancelled = false ∧ (c.identify now).value
        = { c with site, stage := .serving, status := some tasks })
      ∨ ∃ site e, (c.identify now).value
        = { c with site, stage := .ended (.error (.noPod e)) } := by
  unfold identify
  rw [Reported.value_bind]
  split
  next found h hfound =>
    cases found with
    | ok pod => exact Or.inl ⟨_, _, rfl, rfl⟩
    | error e => exact Or.inr ⟨_, _, rfl⟩

/-! ### Runs -/

/-- Something that can happen to a controller. -/
inductive Event where
  /-- A task does the next thing that it has to do at a time. -/
  | turn (now : Nat) (task : Task)
  /-- A signal comes. -/
  | signal (s : Signal)
  /-- Others change what is on the server or in the stores. -/
  | elsewhere (site : Site)

/-- The controller after something has happened. -/
def meet (c : Controller) : Event → Controller
  | .turn now task => ((step now task c).value).getD c
  | .signal s => c.receive s
  | .elsewhere site => { c with site }

/-- The controller after several things have happened. -/
def meetAll (c : Controller) (es : List Event) : Controller :=
  es.foldl meet c

theorem meetAll_append (c : Controller) (es es' : List Event) :
    c.meetAll (es ++ es') = (c.meetAll es).meetAll es' :=
  List.foldl_append ..

/-- What every turn, every signal that counts and every change elsewhere keeps, every run keeps. -/
theorem meetAll_invariant {P : Controller → Prop}
    (hturn : ∀ {now task} {c c' : Controller}, Steps now c task c' → P c → P c')
    (hsignal : ∀ {c : Controller} (s : Signal), P c → P { c with signal := some s })
    (helsewhere : ∀ {c : Controller} (site : Site), P c → P { c with site }) {c : Controller}
    (hc : P c) (es : List Event) : P (c.meetAll es) := by
  induction es generalizing c with
  | nil => exact hc
  | cons e es ih =>
      refine ih ?_
      cases e with
      | signal s =>
          show P (c.receive s)
          unfold receive
          split
          · exact hsignal s hc
          · exact hc
      | elsewhere site => exact helsewhere site hc
      | turn now task =>
          show P ((step now task c).value.getD c)
          cases h : (step now task c).value with
          | none => exact hc
          | some c' => exact hturn (steps_of_step h) hc

end IngressController.Controller
