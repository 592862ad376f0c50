import IngressController.Proofs.Controller.Writes

/-!
# `IngressController.Proofs.Controller.Shutdown`: the order in which the controller ends

When a signal comes or the election has ended, the controller withdraws the addresses, waits for the
withdrawal and then for the run of the status passes, and only then tells the candidate to end,
which gives up the lease. So from then on nobody is left who could write a status, in whatever order
the tasks take turns.

* `StatusTasks.MayBe`: what is left of the passes in each stage. `orderly_meetAll` says that no run
  of the controller leaves this order.
* `received_of_isSome`: a signal counts only if it has come while the controller served.
* `endsInOrder_meetAll`: after the candidate has been told to end no write is asked for and the
  server notes none, and the controller ends well only if a signal has come.
-/

set_option autoImplicit false

namespace IngressController.Controller

open Object Status

/-! ### Stages -/

/-- What the tasks of the status can be in a stage: they do not exist before their pod has been
found, the withdrawal has ended before the run of the passes is waited for, and that has ended
before the candidate is told to end. -/
def StatusTasks.MayBe (tasks : StatusTasks) : Stage → Prop
  | .starting | .waitingForStores | .identifying => False
  | .serving | .withdrawing _ => tasks.candidate.cancelled = false
  | .endingPasses _ => tasks.candidate.cancelled = false ∧ tasks.passes.isWithdrawing = false
  | .endingElection _ | .ended _ =>
    tasks.passes.isWithdrawing = false ∧ tasks.passes.run = .ended

/-- The tasks of the status fit to the stage. -/
def Orderly (c : Controller) : Prop :=
  ∀ tasks, c.status = some tasks → tasks.MayBe c.stage

/-- How the controller is to end, once this is decided. -/
def Stage.outcome? : Stage → Option Outcome
  | .withdrawing outcome | .endingPasses outcome | .endingElection outcome | .ended outcome =>
    some outcome
  | _ => none

/-- The controller is to end well only if a signal has come. -/
def Signalled (c : Controller) : Prop :=
  c.stage.outcome? = some (.ok ()) → c.signal.isSome = true

/-- Whether the candidate and all others that are left have been told to end. -/
def isCancelled (c : Controller) : Bool :=
  match c.stage with
  | .endingElection _ | .ended _ => true
  | _ => false

section Steps

variable {c c' : Controller} {now : Nat} {task : Task}

/-- Whether tasks fit to a stage depends on the order to end, the withdrawal and the run. -/
theorem StatusTasks.MayBe.congr {tasks tasks' : StatusTasks} {stage : Stage}
    (h : tasks.MayBe stage) (hcancelled : tasks'.candidate.cancelled = tasks.candidate.cancelled)
    (hunder : tasks'.passes.isWithdrawing = tasks.passes.isWithdrawing)
    (hrun : tasks.passes.run = .ended → tasks'.passes.run = .ended) : tasks'.MayBe stage := by
  cases stage with
  | serving => exact hcancelled.trans h
  | withdrawing outcome => exact hcancelled.trans h
  | endingPasses outcome => exact ⟨hcancelled.trans h.1, hunder.trans h.2⟩
  | endingElection outcome => exact ⟨hunder.trans h.1, hrun h.2⟩
  | ended outcome => exact ⟨hunder.trans h.1, hrun h.2⟩
  | _ => exact h

/-- The tasks of an orderly controller fit to its stage, also where this is known by name. -/
theorem Orderly.mayBe (h : c.Orderly) {tasks : StatusTasks} (hstatus : c.status = some tasks)
    {stage : Stage} (hstage : c.stage = stage) : tasks.MayBe stage := by
  rw [← hstage]
  exact h tasks hstatus

theorem orderly_of_none (hstatus : c.status = none) : c.Orderly := by
  intro tasks hsome
  rw [hstatus] at hsome
  cases hsome

/-- There are no passes before their pod has been found. -/
theorem Orderly.status_eq_none (h : c.Orderly) {stage : Stage} (hstage : c.stage = stage)
    (hearly : ∀ tasks : StatusTasks, ¬tasks.MayBe stage) : c.status = none := by
  cases hstatus : c.status with
  | none => rfl
  | some tasks => exact absurd (h.mayBe hstatus hstage) (hearly tasks)

/-- A run that has ended has nothing to do. -/
theorem isDue_of_ended {h : Host Unit} (hrun : h.run = .ended) : h.isDue now = false := by
  rw [Host.isDue, hrun]

/-- In no turn the passes leave the order of the stages. -/
theorem Orderly.step (h : c.Orderly) (hstep : Steps now c task c') : c'.Orderly := by
  cases hstep with
  | reflects hfound => exact h
  | configures => exact h
  | givesUp hstage hclient => exact orderly_of_none (h.status_eq_none hstage fun _ => id)
  | starts hstage => exact orderly_of_none (h.status_eq_none hstage fun _ => id)
  | serves hstage hnext => exact orderly_of_none (h.status_eq_none hstage fun _ => id)
  | identifies hstage =>
      have hstatus : c.status = none := h.status_eq_none hstage fun _ => id
      rcases identify_cases now c with ⟨site, tasks, hcandidate, hvalue⟩ | ⟨site, e, hvalue⟩
      · rw [hvalue]
        intro tasks' hsome
        cases hsome
        exact hcandidate
      · rw [hvalue]
        exact orderly_of_none hstatus
  | @keeps position tasks hstatus hdue =>
      have hwithdrawal : ((Host.step Site.surroundings tasks.setting now position).run
          (tasks.passes.moveTo c.site)).value.2.withdrawal = tasks.passes.withdrawal :=
        Host.withdrawal_step
      intro tasks' hsome
      cases hsome
      refine (h tasks hstatus).congr rfl (congrArg (Option.any _) hwithdrawal) fun hrun => ?_
      -- The run has something to do, so it has not ended.
      rw [isDue_of_ended hrun] at hdue
      cases hdue
  | elects hstatus hstep =>
      -- The candidate changes the leadership of the passes, and nothing else about them.
      intro tasks' hsome
      cases hsome
      exact (h _ hstatus).congr hstep.cancelled rfl id
  | shutsDown hstage hcause =>
      intro tasks' hsome
      obtain ⟨tasks, hstatus, rfl⟩ := Option.map_eq_some_iff.mp hsome
      exact h.mayBe hstatus hstage
  | @withdraws position outcome tasks hstage hstatus hunder =>
      have hcancelled : tasks.candidate.cancelled = false := h.mayBe hstatus hstage
      intro tasks' hsome
      cases hsome
      show StatusTasks.MayBe _ c.stage
      rw [hstage]
      exact hcancelled
  | withdrawn hstage hended =>
      intro tasks hstatus
      exact ⟨h.mayBe hstatus hstage, hended tasks hstatus⟩
  | cancels hstage hended =>
      intro tasks' hsome
      obtain ⟨tasks, hstatus, rfl⟩ := Option.map_eq_some_iff.mp hsome
      have hmay : tasks.MayBe (.endingPasses _) := h.mayBe hstatus hstage
      rw [passesEnded, hstatus] at hended
      exact ⟨hmay.2, of_decide_eq_true hended⟩
  | finishes hstage hended =>
      -- Nothing begins again while the election ends.
      intro tasks hstatus
      have hmay : tasks.MayBe (.endingElection _) := h.mayBe hstatus hstage
      exact hmay

end Steps

/-- The passes fit to the stage in every run of the controller. -/
theorem orderly_meetAll (setup : Setup) (site : Site) (es : List Event) :
    (meetAll { setup, site } es).Orderly :=
  meetAll_invariant (P := Orderly) (fun hstep h => h.step hstep) (fun _ h => h) (fun _ h => h)
    (orderly_of_none rfl) es

/-! ### Signals -/

section Signals

variable {c c' : Controller} {now : Nat} {task : Task}

/-- No turn of a task is a signal. -/
theorem Steps.signal (h : Steps now c task c') : c'.signal = c.signal := by
  cases h with
  | identifies hstage =>
      rcases identify_cases now c with ⟨site, tasks, hcandidate, hvalue⟩ | ⟨site, e, hvalue⟩
      · rw [hvalue]
      · rw [hvalue]
  | _ => rfl

theorem Signalled.isSome (h : c.Signalled) {stage : Stage} (hstage : c.stage = stage)
    (hwell : stage.outcome? = some (.ok ())) : c.signal.isSome = true := by
  rw [← hstage] at hwell
  exact h hwell

/-- In no turn it is decided to end well without a signal. -/
theorem Signalled.step (h : c.Signalled) (hstep : Steps now c task c') : c'.Signalled := by
  have hsignal : c'.signal = c.signal := hstep.signal
  intro hwell
  rw [hsignal]
  cases hstep with
  | identifies hstage =>
      rcases identify_cases now c with ⟨site, tasks, hcandidate, hvalue⟩ | ⟨site, e, hvalue⟩
      · rw [hvalue] at hwell
        cases hwell
      · rw [hvalue] at hwell
        cases hwell
  | givesUp hstage hclient => cases hwell
  | starts hstage => cases hwell
  | serves hstage hnext =>
      rcases hnext with rfl | rfl <;> cases hwell
  | shutsDown hstage hcause => exact hcause (Option.some.inj hwell)
  | withdrawn hstage hended => exact h.isSome hstage hwell
  | cancels hstage hended => exact h.isSome hstage hwell
  | finishes hstage hended => exact h.isSome hstage hwell
  | _ => exact h hwell

end Signals

theorem signalled_meetAll (setup : Setup) (site : Site) (es : List Event) :
    (meetAll { setup, site } es).Signalled :=
  meetAll_invariant (P := Signalled) (fun hstep h => h.step hstep) (fun _ _ _ => rfl)
    (fun _ h => h) (by intro hwell; cases hwell) es

/-- A signal has come while the controller served. -/
def Received (start : Controller) (es : List Event) : Prop :=
  ∃ before s after, es = before ++ .signal s :: after ∧ (start.meetAll before).stage = .serving

theorem signal_turn (now : Nat) (task : Task) (c : Controller) :
    (c.meet (.turn now task)).signal = c.signal := by
  show ((step now task c).value.getD c).signal = c.signal
  cases h : (step now task c).value with
  | none => rfl
  | some c' => exact (steps_of_step h).signal

/-- A signal counts only if it has come while the controller served. -/
theorem received_of_isSome {start : Controller} (hstart : start.signal = none) {es : List Event}
    (h : (start.meetAll es).signal.isSome = true) : Received start es := by
  induction es generalizing start with
  | nil =>
      rw [meetAll, List.foldl_nil, hstart] at h
      cases h
  | cons e es ih =>
      -- Either this was the signal, or it has come later.
      have hlater : (start.meet e).signal = none → Received start (e :: es) := by
        intro hnone
        obtain ⟨before, s, after, hes, hstage⟩ := ih hnone h
        exact ⟨e :: before, s, after, congrArg (List.cons e) hes, hstage⟩
      cases e with
      | turn now task => exact hlater ((signal_turn now task start).trans hstart)
      | elsewhere site => exact hlater hstart
      | signal s =>
          by_cases hserving : start.stage = .serving
          · exact ⟨[], s, es, rfl, hserving⟩
          · refine hlater ?_
            show (start.receive s).signal = none
            unfold receive
            split
            · next hstage => exact absurd hstage hserving
            · exact hstart

/-! ### The end -/

section End

variable {c c' : Controller} {now : Nat} {task : Task}

/-- Nobody who is told to end is told otherwise. -/
theorem Steps.isCancelled (h : Steps now c task c') (hc : c.isCancelled = true) :
    c'.isCancelled = true := by
  cases h with
  | reflects hfound => exact hc
  | configures => exact hc
  | keeps hstatus hdue => exact hc
  | elects hstatus hstep => exact hc
  | givesUp hstage hclient => rfl
  | cancels hstage hended => rfl
  | finishes hstage hended => rfl
  | starts hstage => simp [Controller.isCancelled, hstage] at hc
  | serves hstage hnext => simp [Controller.isCancelled, hstage] at hc
  | identifies hstage => simp [Controller.isCancelled, hstage] at hc
  | shutsDown hstage hcause => simp [Controller.isCancelled, hstage] at hc
  | withdraws hstage hstatus hunder => simp [Controller.isCancelled, hstage] at hc
  | withdrawn hstage hended => simp [Controller.isCancelled, hstage] at hc

theorem isCancelled_meetAll (hc : c.isCancelled = true) (es : List Event) :
    (c.meetAll es).isCancelled = true :=
  meetAll_invariant (P := fun c => c.isCancelled = true) (fun hstep h => hstep.isCancelled h)
    (fun _ h => h) (fun _ h => h) hc es

/-- A candidate is told to end together with all others that are left. -/
theorem Orderly.isCancelled_of_cancelled (h : c.Orderly) {tasks : StatusTasks}
    (hstatus : c.status = some tasks) (hcancelled : tasks.candidate.cancelled = true) :
    c.isCancelled = true := by
  have hmay := h tasks hstatus
  rw [Controller.isCancelled]
  cases hstage : c.stage with
  | endingElection outcome => rfl
  | ended outcome => rfl
  | serving => simp [hstage, StatusTasks.MayBe, hcancelled] at hmay
  | withdrawing outcome => simp [hstage, StatusTasks.MayBe, hcancelled] at hmay
  | endingPasses outcome => simp [hstage, StatusTasks.MayBe, hcancelled] at hmay
  | _ => simp [hstage, StatusTasks.MayBe] at hmay

/-- The run of the passes has ended before all are told to end. -/
theorem Orderly.run_eq_ended (h : c.Orderly) (hc : c.isCancelled = true) {tasks : StatusTasks}
    (hstatus : c.status = some tasks) : tasks.passes.run = .ended := by
  have hmay := h tasks hstatus
  cases hstage : c.stage with
  | endingElection outcome =>
      rw [hstage] at hmay
      exact hmay.2
  | ended outcome =>
      rw [hstage] at hmay
      exact hmay.2
  | _ => simp [Controller.isCancelled, hstage] at hc

/-- After all have been told to end, no task asks for anything that has to do with the status. -/
theorem Orderly.request?_eq_none (h : c.Orderly) (hc : c.isCancelled = true) (now : Nat)
    (task : Task) : c.request? now task = none := by
  cases hstatus : c.status with
  | none => cases task <;> simp [request?, hstatus]
  | some tasks =>
      have hrun : tasks.passes.run = .ended := h.run_eq_ended hc hstatus
      cases task with
      | passes position => simp [request?, hstatus, isDue_of_ended hrun]
      | main position =>
          -- The main task makes steps of the withdrawal in a stage that is over.
          cases hstage : c.stage with
          | withdrawing outcome => simp [Controller.isCancelled, hstage] at hc
          | _ => simp [request?, hstatus, hstage]
      | _ => simp [request?]

end End

/-- A controller that has ended has done so in order:

- `told`: the candidate is told to end only when all others that are left are, too;
- `quiet`: after that no task ever asks for a write of a status;
- `silent`: and the server notes none in any turn of a task;
- `signalled`: the controller ends well only if a signal has come while it served. -/
structure EndsInOrder (start : Controller) (es : List Event) : Prop where
  told : ∀ tasks, (start.meetAll es).status = some tasks → tasks.candidate.cancelled = true →
    (start.meetAll es).isCancelled = true
  quiet : ∀ before after, es = before ++ after → (start.meetAll before).isCancelled = true →
    ∀ now task, (start.meetAll es).publishes now task = false
  silent : ∀ before after, es = before ++ after → (start.meetAll before).isCancelled = true →
    ∀ now task c', (step now task (start.meetAll es)).value = some c' →
      c'.site.server.writes = (start.meetAll es).site.server.writes
  signalled : (start.meetAll es).outcome? = some (.ok ()) → Received start es

/-- A controller ends in order, in whatever order its tasks take turns, whatever signals come and
whatever changes on the server and in the stores. -/
theorem endsInOrder_meetAll (setup : Setup) (site : Site) (es : List Event) :
    EndsInOrder { setup, site } es := by
  have hquiet : ∀ before after, es = before ++ after →
      (meetAll { setup, site } before).isCancelled = true →
      ∀ now task, (meetAll { setup, site } es).publishes now task = false := by
    intro before after hes hbefore now task
    have hcancelled : (meetAll { setup, site } es).isCancelled = true := by
      rw [hes, meetAll_append]
      exact isCancelled_meetAll hbefore after
    rw [publishes, (orderly_meetAll setup site es).request?_eq_none hcancelled]
    rfl
  refine
    { told := fun tasks hstatus hcancelled =>
        (orderly_meetAll setup site es).isCancelled_of_cancelled hstatus hcancelled
      quiet := hquiet
      silent := fun before after hes hbefore now task c' hstep => ?_
      signalled := fun hwell => ?_ }
  · exact (steps_of_step hstep).writes (hquiet before after hes hbefore now task)
  · refine received_of_isSome rfl (signalled_meetAll setup site es ?_)
    unfold outcome? at hwell
    split at hwell
    · next hstage =>
        rw [hstage]
        exact hwell
    · cases hwell

/-- A server with the pod of the controller. -/
def podServer : Api.Server :=
  Api.Server.put {} .pod (.obj [("metadata", .obj
    [("name", .str "ingress-0"), ("namespace", .str "kube-system")])])

/-- A controller that is to find this pod. -/
def podSetup : Setup where
  environment := .ofList [("POD_NAME", "ingress-0"), ("POD_NAMESPACE", "kube-system")]

/-- The controller begins to serve, a signal comes, the withdrawal ends and the passes end. -/
def terminating : List Event :=
  .turn 0 (.main 0) :: Kind.watched.map (fun kind => .turn 0 (.reflector kind)) ++
    List.replicate 2 (.turn 0 (.main 0)) ++ .signal .terminate ::
    List.replicate 5 (.turn 0 (.main 0)) ++ [.turn 0 (.passes 0), .turn 0 (.main 0)]

/-- The controller after this. -/
def terminated : Controller :=
  meetAll { setup := podSetup, site := { server := podServer } } terminating

/-- The controller then has its tasks still, but none of them writes a status. -/
theorem publishes_eq_false_of_terminating :
    terminated.status.isSome = true ∧ ∀ now task, terminated.publishes now task = false := by
  have hreached : terminated.status.isSome = true ∧ terminated.isCancelled = true := by
    decide +kernel
  exact ⟨hreached.1,
    (endsInOrder_meetAll _ _ _).quiet terminating [] (List.append_nil _).symm hreached.2⟩

end IngressController.Controller
