import IngressController.Proofs.Status.Decision
import IngressController.Proofs.Status.Stored

/-!
# `IngressController.Proofs.Status.Withdrawal`: when a host that shuts down writes at all

A host that shuts down takes its addresses back only if it leads, is told to do so, and runs the
last pod of the controller, as far as it can see. It cannot see other pods if the list of pods is
not to be read. When the addresses are those of nodes, it then has no addresses either and gives up.
When they are those of a Service, it goes on as if it were alone.

* `mayWithdraw_of_writes`: the withdrawal writes only under these conditions, whatever calls fail
  and in whatever order it takes turns with a pass under way.
* `withdraws_beside_another_pod`: it does write beside another pod, if it publishes the addresses of
  a Service and the list of pods is not to be read.
-/

set_option autoImplicit false

namespace IngressController.Status

open Object

/-! ### What the withdrawal decides on -/

/-- The pods in a cluster that carry all labels of the pod of the controller, in its namespace. -/
def ownPods (m : Cluster.Memory) (pod : PodDetails) : List Pod :=
  m.pods.filter fun p =>
    p.metadata.isIn pod.namespaceName && Cluster.matchesSelector pod.selector p.metadata

/-- A host may withdraw its addresses:

- `leading`: it leads;
- `updateOnShutdown`: it is told to do so;
- `alone`: no other pod of the controller runs, or it publishes the addresses of a Service and
  cannot list its pods. -/
structure MayWithdraw (setting : Setting) (h : Host Scene) : Prop where
  leading : h.leadership.leading = true
  updateOnShutdown : setting.config.updateOnShutdown = true
  alone : (ownPods h.around.cluster setting.pod).length ≤ 1
    ∨ setting.config.publishService ≠ ""
      ∧ h.around.cluster.fails
        (.listPods setting.pod.namespaceName setting.pod.selector) = true

/-- The withdrawal decides on its updates without a look at the copies of Ingresses. -/
theorem decidesOn_withdrawing (setting : Setting) (h₀ : Host Scene) {d : Decision}
    (hd : Pass.withdrawing setting = .deciding d) :
    StoredProperty.DecidesOn h₀ (fun r => r = .ok ((decideWithdrawal setting).eval h₀.reply))
      d := by
  cases hd
  rw [StoredProperty.DecidesOn, Program.ensures_bind]
  refine (ensures_decideWithdrawal setting).eval.mono (fun _ h => h) fun us hus => ?_
  rw [Program.ensures_pure, hus]

/-- The list of pods is answered with the pods of the controller, or not at all. -/
theorem reply_listPods (h : Host Scene) (pod : PodDetails) :
    (h.around.cluster.fails (.listPods pod.namespaceName pod.selector) = false
        ∧ h.reply (.call (.listPods pod.namespaceName pod.selector))
          = .ok (ownPods h.around.cluster pod))
      ∨ h.around.cluster.fails (.listPods pod.namespaceName pod.selector) = true
        ∧ ∃ failure, h.reply (.call (.listPods pod.namespaceName pod.selector))
          = .error failure := by
  cases hfails : h.around.cluster.fails (.listPods pod.namespaceName pod.selector) with
  | false =>
      refine .inl ⟨rfl, ?_⟩
      rw [Host.reply, Host.value_call, Cluster.Memory.answer_of_not_fails hfails]
      rfl
  | true =>
      refine .inr ⟨rfl, ?_⟩
      rw [Host.reply, Host.value_call, Cluster.Memory.answer_of_fails hfails]
      exact ⟨_, rfl⟩

/-- Without the list of pods there are no addresses of nodes. -/
theorem eval_runningAddresses_of_error {config : Config} {pod : PodDetails}
    {reply : (q : Ask) → q.Answer} (hnodes : config.publishService = "")
    {failure : Cluster.Failure}
    (hlist : reply (.call (.listPods pod.namespaceName pod.selector)) = .error failure) :
    (runningAddresses config pod).eval reply = .error (.cluster failure) := by
  rw [runningAddresses, if_pos hnodes, Program.eval_bind]
  have hreply : (listOwnPods pod).eval reply = .error failure := hlist
  rw [hreply]
  rfl

/-- A host that decides to withdraw anything may withdraw its addresses. -/
theorem mayWithdraw_of_eval {setting : Setting} {h : Host Scene}
    (hus : (decideWithdrawal setting).eval h.reply ≠ []) : MayWithdraw setting h := by
  rw [eval_decideWithdrawal] at hus
  split at hus
  · next hguard =>
      cases haddresses : (runningAddresses setting.config setting.pod).eval h.reply with
      | error e => rw [haddresses] at hus; exact absurd rfl hus
      | ok addresses =>
          rw [haddresses] at hus
          have hothers : (hasOtherPods setting.pod).eval h.reply = false := by
            by_contra hsome
            refine hus (if_pos (.inr ?_))
            simpa using hsome
          refine ⟨hguard.1, hguard.2, ?_⟩
          -- The list of pods counts them, or it is not to be read.
          obtain ⟨-, hlist⟩ | ⟨hfails, failure, hlist⟩ := reply_listPods h setting.pod
          · rw [eval_hasOtherPods, hlist] at hothers
            have hfew : ¬ 1 < (ownPods h.around.cluster setting.pod).length :=
              of_decide_eq_false hothers
            exact .inl (by omega)
          · refine .inr ⟨fun hnodes => ?_, hfails⟩
            rw [eval_runningAddresses_of_error hnodes hlist] at haddresses
            cases haddresses
  · exact absurd rfl hus

/-! ### A withdrawal without updates -/

/-- A pass that decides on no updates. -/
def idleProperty (h₀ : Host Scene) : StoredProperty h₀ where
  decided r := r = .ok []
  always _ := True
  errands es _ := es = []
  begin_errands := by
    rintro us stored hus -
    cases hus
    exact ⟨[], .nil, rfl⟩
  step_errands := by
    rintro es h i e - - rfl hi
    cases hi

section Idle

variable {h₀ h : Host Scene} {p : Pass}

/-- A step of a pass without updates stores nothing. -/
theorem stored_advance_of_idle (hp : (idleProperty h₀).invariant.Holds p h) (position : Nat) :
    ((p.advance (Host.answers Scene.surroundings) position).run h).value.2.stored = h.stored := by
  generalize hx : ((p.advance (Host.answers Scene.surroundings) position).run h).value = x
  have hsteps := Pass.advance_steps (Host.answers Scene.surroundings) position h p
  rw [hx] at hsteps
  cases hsteps with
  | fails e => rfl
  | begins us => rfl
  | decides d hd => exact hp.2.2.stored_step h
  | turns b hend =>
      obtain ⟨es, hruns, hfilled, -, -, -, rfl⟩ := hp
      obtain ⟨-, hhost⟩ | ⟨e, he, -, -⟩ := hruns.turn hfilled Scene.surroundings position h
      · exact congrArg Host.stored hhost
      · cases he
  | ends b hend => rfl
  | stays result => rfl

/-- What is said of a pass without updates does not depend on what is stored. -/
theorem idle_of_steady (hp : (idleProperty h₀).invariant.Holds p h) {h' : Host Scene}
    (hs : Host.Steady h₀ h') : (idleProperty h₀).invariant.Holds p h' :=
  hp.transfer (fun _ hd => ⟨hs, trivial, hd.2.2⟩) fun _ hes => ⟨hs, trivial, hes.2.2⟩

/-- A withdrawal that decides on no updates goes on so, whatever turns are taken. -/
theorem idle_takeAll (setting : Setting) (hs : Host.Steady h₀ h)
    (hh : ∃ p, h.under .withdrawal = some p ∧ (idleProperty h₀).invariant.Holds p h)
    (ts : List Turn) :
    ∃ p, (h.takeAll Scene.surroundings setting ts).under .withdrawal = some p
      ∧ (idleProperty h₀).invariant.Holds p (h.takeAll Scene.surroundings setting ts) := by
  refine (Host.takeAll_invariant (I := fun h' => Host.Steady h₀ h'
    ∧ ∃ p, h'.under .withdrawal = some p ∧ (idleProperty h₀).invariant.Holds p h') ?_ ts
      ⟨hs, hh⟩).2
  rintro h' ⟨side, position⟩ ⟨hs', p, hwithdrawal, hp⟩
  refine ⟨hs'.take _, ?_⟩
  cases side with
  | pass =>
      -- What the pass stores is of no concern to a withdrawal without updates.
      have hne : Side.withdrawal ≠ Side.pass := by decide
      exact ⟨p, (Host.under_take_of_ne (t := ⟨.pass, position⟩) hne).trans hwithdrawal,
        idle_of_steady hp (hs'.take _)⟩
  | withdrawal => exact hp.take setting ⟨.withdrawal, position⟩ hwithdrawal

/-- A pass without updates stores nothing in any order of its steps. -/
theorem stored_follow_of_idle (hp : (idleProperty h₀).invariant.Holds p h) (order : List Nat) :
    (Pass.follow (Host.answers Scene.surroundings) order (p, h)).2.stored = h.stored := by
  refine (Pass.follow_invariant (I := fun p' h' => (idleProperty h₀).invariant.Holds p' h'
    ∧ h'.stored = h.stored) ?_ order ⟨hp, rfl⟩).2
  rintro p' h' position ⟨hp', hstored⟩
  exact ⟨(idleProperty h₀).invariant.advance hp' position,
    (stored_advance_of_idle hp' position).trans hstored⟩

end Idle

/-- The withdrawal writes the status of an Ingress only if the host may withdraw its addresses when
it begins to shut down:

- in one go, when the host shuts down;
- in any order of turns with a pass that is under way.

No call needs to succeed for this. -/
theorem mayWithdraw_of_writes (setting : Setting) (h : Host Scene) :
    ((((Host.shutdown Scene.surroundings setting).run h).value.2.around.cluster.writes
        ≠ h.around.cluster.writes) → MayWithdraw setting h)
      ∧ ∀ ts position,
        (((h.beginShutdown setting).takeAll Scene.surroundings setting ts).take Scene.surroundings
            setting ⟨.withdrawal, position⟩).around.cluster.writes
          ≠ ((h.beginShutdown setting).takeAll Scene.surroundings setting
            ts).around.cluster.writes →
        MayWithdraw setting h := by
  -- If the host may not withdraw, the withdrawal has no updates.
  have hidle : ¬ MayWithdraw setting h →
      (idleProperty (h.beginShutdown setting)).invariant.Holds (Pass.withdrawing setting)
        (h.beginShutdown setting) := by
    intro hnot
    have hnone : (decideWithdrawal setting).eval (h.beginShutdown setting).reply = [] := by
      by_contra hsome
      obtain ⟨hleading, hupdate, halone⟩ := mayWithdraw_of_eval hsome
      exact hnot ⟨hleading, hupdate, halone⟩
    have hdecides := decidesOn_withdrawing setting (h.beginShutdown setting) rfl
    rw [hnone] at hdecides
    exact ⟨Host.Steady.refl _, trivial, hdecides⟩
  constructor
  · intro hwrites
    by_contra hnot
    obtain ⟨order, horder⟩ := Pass.finish_follow (Host.answers Scene.surroundings)
      (restless_withdrawing setting) (h.beginShutdown setting)
    have hstored := stored_follow_of_idle (hidle hnot) order
    rw [horder] at hstored
    exact hwrites (congrArg Prod.snd hstored)
  · intro ts position hwrites
    by_contra hnot
    obtain ⟨p, hwithdrawal, hp⟩ := idle_takeAll setting
      (Host.Steady.refl (h.beginShutdown setting)) ⟨_, rfl, hidle hnot⟩ ts
    rw [Host.take_of_some hwithdrawal] at hwrites
    exact hwrites (congrArg Prod.snd (stored_advance_of_idle hp position))

/-- The only pod writes when it shuts down in one go. One of two pods that cannot list them writes
in the twelfth turn of the withdrawal. -/
theorem mayWithdraw_of_service :
    MayWithdraw serviceSetting (serviceHost ["ingress-0"] [] ["1.1.1.1"])
      ∧ MayWithdraw serviceSetting
        (serviceHost ["ingress-0", "ingress-1"] ["list_pods"] ["1.1.1.1"]) :=
  ⟨(mayWithdraw_of_writes serviceSetting (serviceHost ["ingress-0"] [] ["1.1.1.1"])).1
      (by decide +kernel),
    (mayWithdraw_of_writes serviceSetting
      (serviceHost ["ingress-0", "ingress-1"] ["list_pods"] ["1.1.1.1"])).2
      (List.replicate 11 ⟨.withdrawal, 0⟩) 0 (by decide +kernel)⟩

/-- A host withdraws the address of a Service beside another pod of the controller, if the list of
pods is not to be read. -/
theorem withdraws_beside_another_pod :
    (ownPods (serviceHost ["ingress-0", "ingress-1"] ["list_pods"] ["1.1.1.1"]).around.cluster
        serviceSetting.pod).length = 2
      ∧ ((Host.shutdown Scene.surroundings serviceSetting).run
          (serviceHost ["ingress-0", "ingress-1"] ["list_pods"]
            ["1.1.1.1"])).value.2.around.cluster.writes
        = [ingressShowing "a" []] :=
  ⟨by decide +kernel, by decide +kernel⟩

end IngressController.Status
