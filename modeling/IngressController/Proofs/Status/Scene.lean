import IngressController.Proofs.Cluster.Memory
import IngressController.Proofs.Status.Invariant
import IngressController.Status.Scene

/-!
# `IngressController.Proofs.Status.Scene`: hosts on a cluster in memory

On a cluster in memory the programs of keeping the status change only the copies of Ingresses. All
else that they ask for stays as it was: `Host.Steady` says so of two hosts, `Host.Steady.answer` and
its companions give it for every way in which a program goes on, and `Host.Steady.reply` gives the
same answers to all requests that are not about the copies of Ingresses.
-/

set_option autoImplicit false

namespace IngressController.Status

open Object
open Cluster.Memory (fetchCall)

/-- Whether the answer to a request has nothing to do with the copies of Ingresses or with a batch
that is cancelled on the way. -/
def Ask.IsSteady : Ask → Prop
  | .call c => c.isAboutIngress = false
  | .cancelled .caller => False
  | _ => True

namespace Host

/-- A call in a scene is answered by its cluster. -/
theorem value_call (c : Cluster.Call) (h : Host Scene) :
    ((answers Scene.surroundings (.call c)).run h).value
      = ((h.around.cluster.answer c).1,
        { h with around := { h.around with
            cluster := (h.around.cluster.answer c).2
            cancelled := h.around.cancelled || h.around.cancels c } }) := rfl

/-- What keeping the status leaves as it was, from one host to a later one. -/
structure Steady (h₀ h : Host Scene) : Prop where
  leadership : h.leadership = h₀.leadership
  queue : h.queue = h₀.queue
  passesEnd : h.passesEnd = h₀.passesEnd
  watched : h.around.watched = h₀.around.watched
  premises : h.around.cluster.premises = h₀.around.cluster.premises
  cancelOn : h.around.cancelOn = h₀.around.cancelOn
  /-- A batch is cancelled on the way only by an Ingress that does so. -/
  cancelled : h₀.around.cancelOn = none → h.around.cancelled = h₀.around.cancelled
  keyed : h₀.around.cluster.Keyed → h.around.cluster.Keyed

namespace Steady

variable {h₀ h : Host Scene}

/-- Nothing has changed yet. -/
theorem refl (h : Host Scene) : Steady h h where
  leadership := rfl
  queue := rfl
  passesEnd := rfl
  watched := rfl
  premises := rfl
  cancelOn := rfl
  cancelled _ := rfl
  keyed hkeyed := hkeyed

/-- What stays as it was is a matter of what a host answers. -/
theorem of_alike (hs : Steady h₀ h) {h' : Host Scene} (halike : h.Alike h') : Steady h₀ h' where
  leadership := halike.leadership.trans hs.leadership
  queue := halike.queue.trans hs.queue
  passesEnd := halike.passesEnd.trans hs.passesEnd
  watched := by rw [halike.around]; exact hs.watched
  premises := by rw [halike.around]; exact hs.premises
  cancelOn := by rw [halike.around]; exact hs.cancelOn
  cancelled := by rw [halike.around]; exact hs.cancelled
  keyed := by rw [halike.around]; exact hs.keyed

/-- A call leaves everything else as it was. -/
theorem call (hs : Steady h₀ h) (c : Cluster.Call) :
    Steady h₀ ((answers Scene.surroundings (.call c)).run h).value.2 := by
  rw [value_call]
  refine { hs with premises := ?_, cancelled := ?_, keyed := ?_ }
  · exact (h.around.cluster.premises_answer c).trans hs.premises
  · intro hnone
    -- Without an Ingress that cancels the batch, no call does so.
    have hcancels : h.around.cancels c = false := by
      rw [← hs.cancelOn] at hnone
      cases c <;> simp [Scene.cancels, hnone]
    show (h.around.cancelled || h.around.cancels c) = _
    rw [hcancels, Bool.or_false, hs.cancelled hnone]
  · exact fun hkeyed => (hs.keyed hkeyed).answer c

/-- Answering a request leaves everything else as it was. -/
theorem answer (hs : Steady h₀ h) (q : Ask) :
    Steady h₀ ((answers Scene.surroundings q).run h).value.2 := by
  cases q with
  | call c => exact hs.call c
  | ingresses => exact hs
  | leading => exact hs
  | shuttingDown => exact hs
  | cancelled token => cases token <;> exact hs

/-- A step of a program leaves everything else as it was. -/
theorem step {α : Type} (hs : Steady h₀ h) (p : Task α) :
    Steady h₀ ((p.step (answers Scene.surroundings)).run h).value.2 := by
  cases p with
  | done a => exact hs
  | note n next => exact hs
  | rest next => exact hs
  | ask q next => exact hs.answer q

/-- A step of an errand leaves everything else as it was. -/
theorem next (hs : Steady h₀ h) (e : Errand) :
    Steady h₀ (e.next Scene.surroundings h).2 := by
  have hstep := hs.step (e.stage.program e.job)
  rw [Stage.step_program] at hstep
  exact hstep

/-- The same calls are to fail. -/
theorem failing_eq (hs : Steady h₀ h) : h.around.cluster.failing = h₀.around.cluster.failing :=
  congrArg (fun premises => premises.2.2.2.1) hs.premises

/-- Requests are answered as they were. -/
theorem reply (hs : Steady h₀ h) {q : Ask} (hq : q.IsSteady) :
    ((answers Scene.surroundings q).run h).value.1
      = ((answers Scene.surroundings q).run h₀).value.1 := by
  cases q with
  | call c =>
      rw [value_call, value_call]
      exact Cluster.Memory.answer_congr hs.premises hq
  | ingresses => exact hs.watched
  | leading => exact congrArg Leadership.leading hs.leadership
  | shuttingDown => exact congrArg Queue.shuttingDown hs.queue
  | cancelled token =>
      cases token with
      | endOfPasses => exact hs.passesEnd
      | caller => exact hq.elim

end Steady

end Host

/-- Nothing cancels a batch with a token. -/
def Token.Idle (h : Host Scene) : Token → Prop
  | .endOfPasses => h.passesEnd = false
  | .caller => h.around.cancelled = false ∧ h.around.cancelOn = none

/-- A batch that nothing cancels is not found cancelled. -/
theorem Token.Idle.value_cancelled {h : Host Scene} {token : Token} (ht : token.Idle h) :
    ((Host.answers Scene.surroundings (.cancelled token)).run h).value.1 = false := by
  cases token with
  | endOfPasses => exact ht
  | caller => exact ht.1

/-- A batch that nothing cancels stays so. -/
theorem Token.Idle.of_steady {h₀ h : Host Scene} {token : Token} (ht : token.Idle h₀)
    (hs : Host.Steady h₀ h) : token.Idle h := by
  cases token with
  | endOfPasses => exact hs.passesEnd.trans ht
  | caller => exact ⟨(hs.cancelled ht.2).trans ht.1, hs.cancelOn.trans ht.2⟩

namespace Errand

/-- The host after the Ingress of a job has been read again. -/
theorem next_fetching (h : Host Scene) (job : Job) :
    (Errand.mk job .fetching).next Scene.surroundings h
      = (⟨job, match (h.around.cluster.answer (fetchCall job.ing)).1 with
          | .ok latest => .fetched latest
          | .error failure => .unreadable failure⟩,
        ((Host.answers Scene.surroundings (.call (fetchCall job.ing))).run h).value.2) := by
  rw [Errand.next, Stage.next, Host.value_call, Host.value_call]
  unfold fetchCall
  cases (h.around.cluster.answer
    (.getIngress job.ing.metadata.namespaceText job.ing.metadata.nameText)).1 with
  | ok latest => rfl
  | error failure => rfl

/-- The host after the status of an Ingress has been written for a job. -/
theorem next_publishing (h : Host Scene) (job : Job) (latest : Ingress) :
    (Errand.mk job (.publishing latest)).next Scene.surroundings h
      = (⟨job, match (h.around.cluster.answer (.publish (latest.publish job.wanted))).1 with
          | .ok () => .concluding .updated
          | .error failure => .rejected failure⟩,
        ((Host.answers Scene.surroundings
          (.call (.publish (latest.publish job.wanted)))).run h).value.2) := by
  rw [Errand.next, Stage.next, Host.value_call]
  cases (h.around.cluster.answer (.publish (latest.publish job.wanted))).1 with
  | ok done => rfl
  | error failure => rfl

/-- An errand changes no copy but that of the Ingress that it writes. -/
theorem get?_next {e : Errand} {key : String}
    (hkey : ∀ latest, e.stage = .publishing latest → latest.metadata.key ≠ key) (h : Host Scene) :
    (e.next Scene.surroundings h).2.around.cluster.ingresses.get? key
      = h.around.cluster.ingresses.get? key := by
  obtain ⟨job, st⟩ := e
  cases st with
  | unchecked =>
      rw [Errand.next, Stage.next]
      split
      · rfl
      · split <;> rfl
  | fetching =>
      rw [next_fetching, Host.value_call]
      show (Cluster.Memory.answer _ (fetchCall job.ing)).2.ingresses.get? key = _
      rw [Cluster.Memory.answer_fetchCall_snd]
      rfl
  | publishing latest =>
      rw [next_publishing, Host.value_call]
      show (Cluster.Memory.answer _ (.publish (latest.publish job.wanted))).2.ingresses.get? key = _
      -- A write that is accepted goes to another key, and one that is not goes nowhere.
      by_cases haccepts : h.around.cluster.Accepts (latest.publish job.wanted)
      · rw [Cluster.Memory.answer_publish_of_accepts haccepts]
        show (TextMap.insert _ _ _).get? key = _
        rw [TextMap.get?_insert]
        exact if_neg (hkey latest rfl)
      · rw [Cluster.Memory.answer_publish_of_not_accepts haccepts]
        rfl
  | unchanged => rfl
  | unreadable failure => rfl
  | fetched latest => rfl
  | rejected failure => rfl
  | concluding outcome => rfl
  | settled result => rfl

end Errand

/-! ### Objects for examples -/

/-- An Ingress of the default namespace that shows some IPs. -/
def ingressShowing (name : String) (ips : List String) : Ingress where
  metadata := { name := some name, namespaceName := some "default" }
  status := some { loadBalancer := some { entries := some (ips.map fun ip => { ip := some ip }) } }

/-- A pod of the controller on a node. -/
def controllerPod (name : String) : Pod where
  metadata :=
    { name := some name
      namespaceName := some "kube-system"
      labels := some (TextMap.ofList [("app", "ingress")]) }
  spec := some { nodeName := some "node" }

/-- The details of the first pod of the controller. -/
def firstPod : PodDetails where
  name := "ingress-0"
  namespaceName := "kube-system"
  labels := TextMap.ofList [("app", "ingress")]

/-- A leader that publishes the address of a Service, with some pods of the controller, some calls
that fail and an Ingress that shows some IPs. -/
def serviceHost (pods failing ips : List String) : Host Scene where
  around :=
    { cluster :=
        { pods := pods.map controllerPod
          services := TextMap.ofList [("kube-system/haproxy",
            { status := some
                { loadBalancer := some { entries := some [{ ip := some "1.1.1.1" }] } } })]
          ingresses := TextMap.ofList [("default/a", ingressShowing "a" ips)]
          failing }
      watched := [ingressShowing "a" ips] }
  leadership := Leadership.holding "ingress-0"

/-- The setting of such a leader. -/
def serviceSetting : Setting where
  config := { publishService := "kube-system/haproxy" }
  pod := firstPod

end IngressController.Status
