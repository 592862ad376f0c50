import IngressController.Proofs.Status.Scene

/-!
# `IngressController.Proofs.Status.Decision`: what a pass and the withdrawal ask before they write

Before a pass or the withdrawal makes its updates, it decides on them. The programs of the decision
read pods, nodes and Services, but no Ingress, and they end with the updates of the managed
Ingresses among those that are watched, or with none.

* `ensures_decidePass`: all updates of a pass want the same entries, unless single Ingresses get
  their own, and can be cancelled by the end of the passes.
* `ensures_decideWithdrawal` and `eval_decideWithdrawal`: what the withdrawal asks for does not
  depend on the Ingresses in the cluster, and its decision in full.
-/

set_option autoImplicit false

namespace IngressController.Status

open Object

/-! ### Addresses and pods -/

section Asks

variable {may : Ask → Prop} {replies : (q : Ask) → q.Answer → Prop}

/-- To find the address of a node takes no call about an Ingress. -/
theorem ensures_nodeAddress (hmay : ∀ c : Cluster.Call, c.isAboutIngress = false → may (.call c))
    (name : String) (internal : Bool) :
    (nodeAddress name internal).Ensures may replies fun _ => True := by
  rw [nodeAddress, Program.ensures_bind]
  refine ⟨hmay _ rfl, fun outcome _ => ?_⟩
  cases outcome <;> trivial

/-- To find the addresses of nodes takes no call about an Ingress. -/
theorem ensures_nodeAddresses (hmay : ∀ c : Cluster.Call, c.isAboutIngress = false → may (.call c))
    (internal : Bool) (found : List String) (pods : List Pod) :
    (nodeAddresses internal found pods).Ensures may replies fun _ => True := by
  induction pods generalizing found with
  | nil => trivial
  | cons pod pods ih =>
      rw [nodeAddresses, Program.ensures_bind]
      refine (ensures_nodeAddress hmay pod.nodeText internal).mono (fun _ h => h) ?_
      intro address _
      cases address with
      | none => exact ih found
      | some address => exact ih _

/-- To find the running addresses takes no call about an Ingress. -/
theorem ensures_runningAddresses
    (hmay : ∀ c : Cluster.Call, c.isAboutIngress = false → may (.call c)) (config : Config)
    (pod : PodDetails) :
    (runningAddresses config pod).Ensures may replies fun _ => True := by
  rw [runningAddresses]
  split
  · rw [Program.ensures_bind]
    refine ⟨hmay _ rfl, fun outcome _ => ?_⟩
    cases outcome with
    | error failure => trivial
    | ok pods =>
        show (nodeAddresses config.useNodeInternalIp [] pods >>= _).Ensures _ _ _
        rw [Program.ensures_bind]
        exact (ensures_nodeAddresses hmay _ _ _).mono (fun _ h => h) fun _ _ => trivial
  · split
    · trivial
    · rw [Program.ensures_bind]
      refine ⟨hmay _ rfl, fun outcome _ => ?_⟩
      cases outcome <;> trivial

/-- To look for other pods takes no call about an Ingress. -/
theorem ensures_hasOtherPods (hmay : ∀ c : Cluster.Call, c.isAboutIngress = false → may (.call c))
    (pod : PodDetails) : (hasOtherPods pod).Ensures may replies fun _ => True := by
  rw [hasOtherPods, Program.ensures_bind]
  refine ⟨hmay _ rfl, fun outcome _ => ?_⟩
  cases outcome <;> trivial

end Asks

/-! ### The decision of a pass -/

/-- Updates of some managed Ingresses to some entries, which the end of the passes can cancel. -/
def Setting.Proposes (s : Setting) (us : List Update) : Prop :=
  ∃ (entries : List Entry) (ingresses : List Ingress),
    us = (ingresses.filter s.config.manages).map (update s.custom .endOfPasses entries)

/-- What a pass goes on to decide once it knows that the host leads. -/
def proposal (s : Setting) : Decision := do
  match ← runningAddresses s.config s.pod with
  | .error e => return .error e
  | .ok addresses => return .ok (← updates s.config s.custom .endOfPasses (entriesOf addresses))

/-- It then makes calls that are not about Ingresses, and asks for those that are watched. -/
theorem ensures_proposal (s : Setting) {may : Ask → Prop} {replies : (q : Ask) → q.Answer → Prop}
    (hmay : ∀ c : Cluster.Call, c.isAboutIngress = false → may (.call c))
    (hwatched : may .ingresses) :
    (proposal s).Ensures may replies fun r => ∀ us, r = .ok us → s.Proposes us := by
  rw [proposal, Program.ensures_bind]
  refine (ensures_runningAddresses hmay _ _).mono (fun _ h => h) fun found _ => ?_
  cases found with
  | error e => exact fun us h => nomatch h
  | ok addresses =>
      refine ⟨hwatched, fun ingresses _ us hus => ?_⟩
      cases hus
      exact ⟨_, ingresses, rfl⟩

/-- Whatever a pass is answered, it decides on such updates, and what it asks for before has nothing
to do with the Ingresses in the cluster. -/
theorem ensures_decidePass (s : Setting) :
    (decidePass s).Ensures Ask.IsSteady (fun _ _ => True) fun r =>
      ∀ us, r = .ok us → s.Proposes us := by
  have hnone : ∀ us : List Update, (Except.ok [] : Except Error (List Update)) = .ok us →
      s.Proposes us := by
    intro us h
    cases h
    exact ⟨[], [], rfl⟩
  rw [decidePass, Program.ensures_bind]
  refine ⟨trivial, fun down _ => ?_⟩
  cases down with
  | true => exact hnone
  | false =>
      refine ⟨trivial, fun leading _ => ?_⟩
      cases leading with
      | false => exact hnone
      | true => exact ensures_proposal s (fun _ hc => hc) trivial

/-- No update that a pass decides on rests. -/
theorem restless_publishing (setting : Setting) : (Pass.publishing setting).Restless := by
  refine (ensures_decidePass setting).mono (fun _ _ => trivial) fun r hr us hus u hu => ?_
  obtain ⟨entries, ingresses, rfl⟩ := hr us hus
  obtain ⟨ing, -, rfl⟩ := List.mem_map.mp hu
  exact restless_update setting.custom .endOfPasses entries ing

/-! ### The decision of the withdrawal -/

/-- What the withdrawal goes on to decide once it knows that the host leads. -/
def withdrawalProposal (s : Setting) : Task (List Update) := do
  if !s.config.updateOnShutdown then
    Program.log .warn "skipping update of status of Ingress rules"
    return []
  Program.log .info "updating status of Ingress rules (remove)"
  match ← runningAddresses s.config s.pod with
  | .error e =>
    Program.log .error ("error obtaining running IPs: " ++ e.message)
    return []
  | .ok addresses =>
    if 1 < addresses.length then
      Program.log .info
        ("leaving status update for next leader (" ++ Text.decimal addresses.length ++ ")")
      return []
    if ← hasOtherPods s.pod then
      Program.log .info ("skipping Ingress status update (multiple pods running - " ++
        "another one will be elected as master)")
      return []
    Program.log .info
      ("removing address from ingress status (" ++ Text.quotedList addresses ++ ")")
    updates s.config s.custom .caller []

/-- It then makes calls that are not about Ingresses, and asks for those that are watched. Its
updates are those of the managed ones to no entries, if it makes any. -/
theorem ensures_withdrawalProposal (s : Setting) {may : Ask → Prop}
    {replies : (q : Ask) → q.Answer → Prop}
    (hmay : ∀ c : Cluster.Call, c.isAboutIngress = false → may (.call c))
    (hwatched : may .ingresses) :
    (withdrawalProposal s).Ensures may replies fun us =>
      us = [] ∨ ∃ ingresses, replies .ingresses ingresses
        ∧ us = (ingresses.filter s.config.manages).map (update s.custom .caller []) := by
  rw [withdrawalProposal]
  split
  · exact .inl rfl
  · show (runningAddresses s.config s.pod >>= _).Ensures _ _ _
    rw [Program.ensures_bind]
    refine (ensures_runningAddresses hmay _ _).mono (fun _ h => h) fun found _ => ?_
    cases found with
    | error e => exact .inl rfl
    | ok addresses =>
        show Program.Ensures _ _ _ (if 1 < addresses.length then _ else _)
        split
        · exact .inl rfl
        · show (hasOtherPods s.pod >>= _).Ensures _ _ _
          rw [Program.ensures_bind]
          refine (ensures_hasOtherPods hmay _).mono (fun _ h => h) fun others _ => ?_
          cases others with
          | true => exact .inl rfl
          | false => exact ⟨hwatched, fun ingresses h => .inr ⟨ingresses, h, rfl⟩⟩

/-- What the withdrawal asks for before its updates has nothing to do with the Ingresses in the
cluster, and its updates are those of the managed Ingresses to no entries, if it makes any. -/
theorem ensures_decideWithdrawal (s : Setting) {replies : (q : Ask) → q.Answer → Prop} :
    (decideWithdrawal s).Ensures Ask.IsSteady replies fun us =>
      us = [] ∨ ∃ ingresses, replies .ingresses ingresses
        ∧ us = (ingresses.filter s.config.manages).map (update s.custom .caller []) := by
  rw [decideWithdrawal, Program.ensures_bind]
  refine ⟨trivial, fun leading _ => ?_⟩
  cases leading with
  | false => exact .inl rfl
  | true => exact ensures_withdrawalProposal s (fun _ h => h) trivial

/-- No update that the withdrawal decides on rests. -/
theorem restless_withdrawing (s : Setting) : (Pass.withdrawing s).Restless := by
  rw [Pass.withdrawing, Pass.Restless, Program.ensures_bind]
  refine (ensures_decideWithdrawal s).mono (fun _ _ => trivial) fun us hus us' hus' u hu => ?_
  cases hus'
  obtain rfl | ⟨ingresses, -, rfl⟩ := hus
  · cases hu
  · obtain ⟨ing, -, rfl⟩ := List.mem_map.mp hu
    exact restless_update s.custom .caller [] ing

/-- Whether there are other pods, if the list of pods is answered in this way. -/
theorem eval_hasOtherPods (pod : PodDetails) (reply : (q : Ask) → q.Answer) :
    (hasOtherPods pod).eval reply
      = match reply (.call (.listPods pod.namespaceName pod.selector)) with
        | .ok pods => decide (1 < pods.length)
        | .error _ => false := by
  rw [hasOtherPods, Program.eval_bind]
  have hlist : (listOwnPods pod).eval reply
      = reply (.call (.listPods pod.namespaceName pod.selector)) := rfl
  rw [hlist]
  cases reply (.call (.listPods pod.namespaceName pod.selector)) <;> rfl

/-- The decision of the withdrawal, if its requests are answered the same at all times. -/
theorem eval_decideWithdrawal (s : Setting) (reply : (q : Ask) → q.Answer) :
    (decideWithdrawal s).eval reply
      = if reply .leading = true ∧ s.config.updateOnShutdown = true then
          match (runningAddresses s.config s.pod).eval reply with
          | .error _ => []
          | .ok addresses =>
            if 1 < addresses.length ∨ (hasOtherPods s.pod).eval reply = true then []
            else ((reply .ingresses).filter s.config.manages).map (update s.custom .caller [])
        else [] := by
  rw [decideWithdrawal, Program.eval_bind, Program.eval_request]
  -- The checks one after the other, each of which can end the decision.
  cases hleading : reply .leading with
  | false => rfl
  | true =>
      show Program.eval reply (if (!s.config.updateOnShutdown) = true then _ else _) = _
      cases s.config.updateOnShutdown with
      | false => rfl
      | true =>
          show Program.eval reply (runningAddresses s.config s.pod >>= _) = _
          rw [Program.eval_bind, if_pos ⟨rfl, rfl⟩]
          cases (runningAddresses s.config s.pod).eval reply with
          | error e => rfl
          | ok addresses =>
              show Program.eval reply (if 1 < addresses.length then _ else _) = ite _ _ _
              by_cases hlength : 1 < addresses.length
              · rw [if_pos hlength, if_pos (.inl hlength)]
                rfl
              · rw [if_neg hlength]
                show Program.eval reply (hasOtherPods s.pod >>= _) = _
                rw [Program.eval_bind]
                cases hothers : (hasOtherPods s.pod).eval reply with
                | true =>
                    have hstop : 1 < addresses.length ∨ true = true := .inr rfl
                    rw [if_pos hstop]
                    rfl
                | false =>
                    have hgo : ¬ (1 < addresses.length ∨ false = true) := by simpa using hlength
                    rw [if_neg hgo]
                    rfl

end IngressController.Status
