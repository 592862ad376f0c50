import IngressController.Proofs.Status.Undisturbed
import IngressController.Proofs.Status.Withdrawal

/-!
# `IngressController.Proofs.Status.LastPod`: what the last pod withdraws

When the leader is the only pod of the controller and every call succeeds, it has to take back what
it has published. It does so unless it sees more than one running address. A pod has at most one
address of a node. But a Service can have any number of addresses, which say nothing about other
pods: then the withdrawal is left to a next leader, and there is none.

* `LastPod`: a leader that shuts down alone, with nothing in its way.
* `Setting.SeesFewAddresses`: the running addresses can be found and are not more than one.
* `Withdrawn`: no managed Ingress shows an address any more, and nothing else has changed.
* `withdrawsIfFew_of_lastPod`: in one go and in every order of steps, the withdrawal is complete
  exactly if few addresses are seen or there is none to withdraw, and changes nothing if more are
  seen.
-/

set_option autoImplicit false

namespace IngressController.Status

open Object
open Cluster (Memory)

/-! ### The last pod -/

/-- A leader that shuts down as the only pod of the controller, with nothing in its way:

- `custom`: no Ingress gets addresses of its own;
- `leading` and `updateOnShutdown`: the host leads and is told to withdraw its addresses;
- `alone`: one pod of the controller runs;
- `succeed`: no call fails;
- `keyed` and `watched`: the cluster stores each Ingress under its key, and these are watched as
  they are;
- `idle`: nobody cancels the withdrawal. -/
structure LastPod (setting : Setting) (h : Host Scene) : Prop where
  custom : ∀ ing, setting.custom ing = none
  leading : h.leadership.leading = true
  updateOnShutdown : setting.config.updateOnShutdown = true
  alone : (ownPods h.around.cluster setting.pod).length = 1
  succeed : h.around.cluster.failing = []
  keyed : h.around.cluster.Keyed
  watched : h.around.watched.Perm h.around.cluster.ingresses.values
  idle : Token.caller.Idle h

/-- The running addresses of the only pod can be found and are not more than one: there is no
Service to publish, or it can be read and has not more. -/
def Setting.SeesFewAddresses (setting : Setting) (m : Memory) : Prop :=
  setting.config.publishService = ""
    ∨ ∃ r service, readReference setting.config.publishService = .ok r
      ∧ m.services.get? (r.namespaceName ++ "/" ++ r.name) = some service
      ∧ (serviceAddresses service).length ≤ 1

/-- What becomes of a cluster from which a controller withdraws its addresses:

- `cleared`: every managed Ingress shows no addresses, and has not changed otherwise;
- `others`: nothing else is touched. -/
structure Withdrawn (config : Config) (before after : Memory) : Prop where
  cleared : ∀ key ing, before.ingresses.get? key = some ing → config.manages ing = true →
    ∃ ing', after.ingresses.get? key = some ing' ∧ ing'.published = []
      ∧ (ing' = ing ∨ Readdressed ing [] ing')
  others : ∀ key, (∀ ing, before.ingresses.get? key = some ing → config.manages ing = false) →
    after.ingresses.get? key = before.ingresses.get? key

/-- There is nothing to withdraw: no managed Ingress shows an address. -/
def NothingShown (config : Config) (m : Memory) : Prop :=
  ∀ key ing, m.ingresses.get? key = some ing → config.manages ing = true → ing.published = []

/-- If there is nothing to withdraw, it is withdrawn without a change. -/
theorem NothingShown.withdrawn {config : Config} {m m' : Memory} (h : NothingShown config m)
    (hsame : m'.ingresses = m.ingresses) : Withdrawn config m m' where
  cleared key ing hget hmanages :=
    ⟨ing, by rwa [hsame], h key ing hget hmanages, .inl rfl⟩
  others key _ := by rw [hsame]

/-- Without a change it is withdrawn only if there is nothing to withdraw. -/
theorem Withdrawn.nothingShown {config : Config} {m m' : Memory} (h : Withdrawn config m m')
    (hsame : m'.ingresses = m.ingresses) : NothingShown config m := by
  intro key ing hget hmanages
  obtain ⟨ing', hget', hpublished, -⟩ := h.cleared key ing hget hmanages
  rw [hsame, hget] at hget'
  cases hget'
  exact hpublished

/-- The withdrawal of a host is complete exactly if it sees few addresses or has none to withdraw,
and it stores nothing if it does not see few. -/
structure WithdrawsIfFew (setting : Setting) (h h' : Host Scene) : Prop where
  withdrawn_iff : Withdrawn setting.config h.around.cluster h'.around.cluster
    ↔ setting.SeesFewAddresses h.around.cluster
      ∨ NothingShown setting.config h.around.cluster
  left : ¬ setting.SeesFewAddresses h.around.cluster → h'.stored = h.stored

/-! ### What it decides on -/

section Decision

variable {setting : Setting} {h : Host Scene}

/-- A call that is not among those that fail is served. -/
theorem reply_of_succeed (hsucceed : h.around.cluster.failing = []) (c : Cluster.Call) :
    h.reply (.call c) = ((h.around.cluster.record c).serve c).1 := by
  rw [Host.reply, Host.value_call,
    Memory.answer_of_not_fails (Memory.not_fails_of_succeeds hsucceed c)]

/-- The address of the node of one pod is at most one address. -/
theorem eval_nodeAddresses_single (internal : Bool) (pod : Pod) (reply : (q : Ask) → q.Answer) :
    ((nodeAddresses internal [] [pod]).eval reply).length ≤ 1 := by
  rw [nodeAddresses, Program.eval_bind]
  cases (nodeAddress pod.nodeText internal).eval reply with
  | none => exact Nat.zero_le _
  | some address => exact Nat.le_refl _

/-- Without a Service to publish, the only pod finds the address of its own node, if any. -/
theorem eval_runningAddresses_of_nodes (hlast : LastPod setting h)
    (hnodes : setting.config.publishService = "") :
    ∃ addresses, (runningAddresses setting.config setting.pod).eval h.reply = .ok addresses
      ∧ addresses.length ≤ 1 := by
  obtain ⟨pod, hpod⟩ := List.length_eq_one_iff.mp hlast.alone
  have hlist : (listOwnPods setting.pod).eval h.reply = .ok [pod] := by
    rw [← hpod]
    exact reply_of_succeed hlast.succeed _
  rw [runningAddresses, if_pos hnodes, Program.eval_bind, hlist]
  show ∃ addresses, (nodeAddresses setting.config.useNodeInternalIp [] [pod] >>= _).eval _ = _ ∧ _
  rw [Program.eval_bind]
  exact ⟨_, rfl, eval_nodeAddresses_single _ pod h.reply⟩

/-- With a Service to publish, the addresses are those of the Service, if it can be read. -/
theorem eval_runningAddresses_of_service (hlast : LastPod setting h)
    (hservice : setting.config.publishService ≠ "") (addresses : List String) :
    (runningAddresses setting.config setting.pod).eval h.reply = .ok addresses
      ↔ ∃ r service, readReference setting.config.publishService = .ok r
        ∧ h.around.cluster.services.get? (r.namespaceName ++ "/" ++ r.name) = some service
        ∧ serviceAddresses service = addresses := by
  rw [runningAddresses, if_neg hservice]
  cases hreference : readReference setting.config.publishService with
  | error e =>
      refine iff_of_false ?_ ?_
      · intro heval
        cases heval
      · rintro ⟨r, service, hr, -⟩
        cases hr
  | ok r =>
      have hcall : (call (.getService r.namespaceName r.name)).eval h.reply
          = Memory.found "service" (r.namespaceName ++ "/" ++ r.name)
            (h.around.cluster.services.get? (r.namespaceName ++ "/" ++ r.name)) :=
        reply_of_succeed hlast.succeed _
      show (call (.getService r.namespaceName r.name) >>= _).eval _ = _ ↔ _
      rw [Program.eval_bind, hcall]
      cases hfound : h.around.cluster.services.get? (r.namespaceName ++ "/" ++ r.name) with
      | none =>
          refine iff_of_false ?_ ?_
          · intro heval
            cases heval
          · rintro ⟨r', service, hr, hsome, -⟩
            cases hr
            rw [hfound] at hsome
            cases hsome
      | some service =>
          constructor
          · intro heval
            cases heval
            exact ⟨r, service, rfl, hfound, rfl⟩
          · rintro ⟨r', service', hr, hsome, rfl⟩
            cases hr
            rw [hfound] at hsome
            cases hsome
            rfl

/-- The only pod finds running addresses, and not more than one, exactly if it sees few of them. -/
theorem eval_runningAddresses_iff (hlast : LastPod setting h) :
    (∃ addresses, (runningAddresses setting.config setting.pod).eval h.reply = .ok addresses
        ∧ addresses.length ≤ 1)
      ↔ setting.SeesFewAddresses h.around.cluster := by
  rw [Setting.SeesFewAddresses]
  by_cases hservice : setting.config.publishService = ""
  · exact iff_of_true (eval_runningAddresses_of_nodes hlast hservice) (.inl hservice)
  · rw [or_iff_right hservice]
    constructor
    · rintro ⟨addresses, haddresses, hfew⟩
      obtain ⟨r, service, hr, hfound, rfl⟩ :=
        (eval_runningAddresses_of_service hlast hservice addresses).mp haddresses
      exact ⟨r, service, hr, hfound, hfew⟩
    · rintro ⟨r, service, hr, hfound, hfew⟩
      exact ⟨serviceAddresses service, (eval_runningAddresses_of_service hlast hservice _).mpr
        ⟨r, service, hr, hfound, rfl⟩, hfew⟩

/-- The only pod decides to update all managed Ingresses if it sees few addresses, and none if
not. -/
theorem eval_decideWithdrawal_of_lastPod (hlast : LastPod setting h) :
    (setting.SeesFewAddresses h.around.cluster → (decideWithdrawal setting).eval h.reply
        = (h.around.watched.filter setting.config.manages).map (update setting.custom .caller []))
      ∧ (¬ setting.SeesFewAddresses h.around.cluster →
        (decideWithdrawal setting).eval h.reply = []) := by
  have hleads : h.reply .leading = true ∧ setting.config.updateOnShutdown = true :=
    ⟨hlast.leading, hlast.updateOnShutdown⟩
  have halone : (hasOtherPods setting.pod).eval h.reply = false := by
    have hlist : h.reply (.call (.listPods setting.pod.namespaceName setting.pod.selector))
        = .ok (ownPods h.around.cluster setting.pod) := reply_of_succeed hlast.succeed _
    rw [eval_hasOtherPods, hlist]
    exact decide_eq_false (by rw [hlast.alone]; decide)
  rw [← eval_runningAddresses_iff hlast, eval_decideWithdrawal, if_pos hleads, halone]
  constructor
  · rintro ⟨addresses, haddresses, hfew⟩
    rw [haddresses]
    exact if_neg (not_or.mpr ⟨Nat.not_lt.mpr hfew, Bool.false_ne_true⟩)
  · intro hnot
    cases haddresses : (runningAddresses setting.config setting.pod).eval h.reply with
    | error e => rfl
    | ok addresses =>
        exact if_pos (.inl (Nat.lt_of_not_le fun hfew => hnot ⟨addresses, haddresses, hfew⟩))

end Decision

/-! ### What becomes of the Ingresses -/

/-- The order of addresses does not matter for there being none. -/
theorem sameAddresses_nil_iff (entries : List Entry) : SameAddresses [] entries ↔ entries = [] := by
  rw [SameAddresses, List.map_nil, List.nil_perm, List.map_eq_nil_iff]

/-- If no call fails, an Ingress that the cluster has as it is watched shows no addresses after an
update to none, and has not changed otherwise. -/
theorem Fate.cleared {m m' : Memory} {ing : Ingress} {outcome : UpdateOutcome}
    (hfate : Fate m m' [] ing outcome) (hsucceed : m.failing = [])
    (hcopy : m.copy? ing = some ing) :
    ∃ ing', m'.copy? ing = some ing' ∧ ing'.published = []
      ∧ (ing' = ing ∨ Readdressed ing [] ing') := by
  by_cases hsame : SameAddresses [] ing.published
  · have hunchanged : outcome = .unchanged := hfate.unchanged_iff.mpr hsame
    have hkept := hfate.kept (by rw [hunchanged]; decide)
    exact ⟨ing, hkept.trans hcopy, (sameAddresses_nil_iff _).mp hsame, .inl rfl⟩
  · have hnever := Memory.not_fails_of_succeeds hsucceed
    have hreads : m.Reads ing := ⟨hnever _, by rw [hcopy]; rfl⟩
    obtain ⟨latest, sorted, written, hlatest, hwritten, hordered, hreaddressed⟩ :=
      hfate.written (hfate.updated_iff.mpr ⟨hsame, hreads, hnever _⟩)
    rw [List.perm_nil.mp hordered.perm] at hreaddressed
    cases hlatest.symm.trans hcopy
    exact ⟨written, hwritten, hreaddressed.published, .inr hreaddressed⟩

/-- A batch for no entries withdraws the addresses, if all Ingresses of the cluster are watched as
they are and no call fails. -/
theorem Publication.withdrawn {config : Config} {custom : CustomEntries} {before after : Scene}
    {outcomes : List UpdateOutcome} (hp : Publication config custom [] before after outcomes)
    (hcustom : ∀ ing, custom ing = none) (hsucceed : before.cluster.failing = [])
    (hkeyed : before.cluster.Keyed)
    (hwatched : before.watched.Perm before.cluster.ingresses.values) :
    Withdrawn config before.cluster after.cluster := by
  have hmem := mem_watched_iff hkeyed hwatched
  obtain ⟨fate, -, hfate⟩ := hp.outcomes
  refine ⟨fun key ing hget hmanages => ?_, fun key hothers => ?_⟩
  · obtain rfl := hkeyed key ing hget
    have hing := hfate ing ((hmem ing).mpr hget) hmanages
    rw [wanted, hcustom ing] at hing
    exact hing.cleared hsucceed hget
  · refine hp.elsewhere key fun ing hing hmanages hkey => ?_
    have hget := (hmem ing).mp hing
    rw [Memory.copy?, hkey] at hget
    rw [hothers ing hget] at hmanages
    cases hmanages

/-- A withdrawal that ends with the updates of all managed Ingresses withdraws the addresses. -/
theorem withdrawn_of_holds {setting : Setting} {h h' : Host Scene} (hlast : LastPod setting h)
    {hidle : Token.caller.Idle h} {hkeyed : h.around.cluster.Keyed}
    {hdistinct : (h.around.watched.map (·.metadata.key)).Nodup}
    {result : Except Error (List UpdateOutcome)}
    (hheld : (undisturbedInvariant setting [] hidle hkeyed hdistinct).Holds (.ended result) h') :
    Withdrawn setting.config h.around.cluster h'.around.cluster := by
  obtain ⟨outcomes, h₁, -, hsteady, hstored, hpublication⟩ := publication_of_undisturbed hheld
  have hwithdrawn := hpublication.withdrawn hlast.custom
    (hsteady.failing_eq.trans hlast.succeed) (hsteady.keyed hkeyed)
    (hsteady.perm_watched hstored hlast.watched)
  have hingresses : h₁.around.cluster.ingresses = h.around.cluster.ingresses :=
    congrArg Prod.fst hstored
  exact ⟨fun key ing => hingresses ▸ hwithdrawn.cleared key ing,
    fun key => hingresses ▸ hwithdrawn.others key⟩

/-- Whatever the settings and the cluster are, the last pod withdraws its addresses exactly if it
sees at most one of them or there is none to withdraw, and it leaves everything as it is if it sees
more:

- in every order of steps at whose end the withdrawal has ended;
- every order that gives each position turn after turn comes to such an end;
- in one go, when the host shuts down. -/
theorem withdrawsIfFew_of_lastPod (setting : Setting) (h : Host Scene)
    (hlast : LastPod setting h) :
    (∀ order result h', Pass.follow (Host.answers Scene.surroundings) order
          (Pass.withdrawing setting, h.beginShutdown setting) = (.ended result, h') →
        WithdrawsIfFew setting h h')
      ∧ (∀ order, Fair order → ∃ n, (Pass.follow (Host.answers Scene.surroundings)
          ((List.range n).map order)
          (Pass.withdrawing setting, h.beginShutdown setting)).1.isEnded = true)
      ∧ WithdrawsIfFew setting h
        ((Host.shutdown Scene.surroundings setting).run h).value.2 := by
  have hlast₀ : LastPod setting (h.beginShutdown setting) :=
    ⟨hlast.custom, hlast.leading, hlast.updateOnShutdown, hlast.alone, hlast.succeed, hlast.keyed,
      hlast.watched, hlast.idle⟩
  have hdistinct : ((h.beginShutdown setting).around.watched.map (·.metadata.key)).Nodup :=
    (hlast.watched.map _).nodup_iff.mpr (nodup_map_key hlast.keyed)
  obtain ⟨hfew, hmany⟩ := eval_decideWithdrawal_of_lastPod hlast₀
  have hdecides := decidesOn_withdrawing setting (h.beginShutdown setting) rfl
  have hend : ∀ order result h', Pass.follow (Host.answers Scene.surroundings) order
      (Pass.withdrawing setting, h.beginShutdown setting) = (.ended result, h') →
      WithdrawsIfFew setting h h' := by
    intro order result h' hfollow
    have hwithdrawn : setting.SeesFewAddresses h.around.cluster →
        Withdrawn setting.config h.around.cluster h'.around.cluster := by
      intro hsees
      rw [hfew hsees] at hdecides
      have hheld := (undisturbedInvariant setting [] hlast₀.idle hlast₀.keyed hdistinct).follow order
        (x := (Pass.withdrawing setting, h.beginShutdown setting))
        ⟨Host.Steady.refl _, rfl, hdecides⟩
      rw [hfollow] at hheld
      show Withdrawn _ (h.beginShutdown setting).around.cluster _
      exact withdrawn_of_holds hlast₀ hheld
    have hleft : ¬ setting.SeesFewAddresses h.around.cluster → h'.stored = h.stored := by
      intro hnot
      rw [hmany hnot] at hdecides
      have hstored := stored_follow_of_idle
        (p := Pass.withdrawing setting) ⟨Host.Steady.refl _, trivial, hdecides⟩ order
      rw [hfollow] at hstored
      exact hstored
    refine ⟨?_, hleft⟩
    by_cases hsees : setting.SeesFewAddresses h.around.cluster
    · exact iff_of_true (hwithdrawn hsees) (.inl hsees)
    · -- Nothing has been stored, so the withdrawal is complete only if it had nothing to do.
      have hsame : h'.around.cluster.ingresses = h.around.cluster.ingresses :=
        congrArg Prod.fst (hleft hsees)
      rw [or_iff_right hsees]
      exact ⟨(·.nothingShown hsame), (·.withdrawn hsame)⟩
  refine ⟨hend, fun order hfair => ?_, ?_⟩
  · exact (Pass.goesThrough_follow order _).exists_isEnded hfair 0 rfl
  · obtain ⟨order, horder⟩ := Pass.finish_follow (Host.answers Scene.surroundings)
      (restless_withdrawing setting) (h.beginShutdown setting)
    have hdone := hend order _ _ horder
    -- Besides, the host only notes that its withdrawal has ended.
    exact ⟨hdone.withdrawn_iff, hdone.left⟩

/-! ### Services for examples -/

/-- A Service with some IPs of a load balancer. -/
def balancedService (ips : List String) : Service where
  status := some { loadBalancer := some { entries := some (ips.map fun ip => { ip := some ip }) } }

/-- A leader with one pod that publishes the addresses of a Service, and an Ingress that shows some
IPs. -/
def balancedHost (addresses ips : List String) : Host Scene where
  around :=
    { cluster :=
        { pods := [controllerPod "ingress-0"]
          services := TextMap.ofList [("kube-system/haproxy", balancedService addresses)]
          ingresses := TextMap.ofList [("default/a", ingressShowing "a" ips)] }
      watched := [ingressShowing "a" ips] }
  leadership := Leadership.holding "ingress-0"

/-- Such a leader is the last pod. -/
theorem lastPod_of_balancedHost (addresses ips : List String) :
    LastPod serviceSetting (balancedHost addresses ips) where
  custom _ := rfl
  leading := rfl
  updateOnShutdown := rfl
  alone := by
    show (ownPods { pods := [controllerPod "ingress-0"] } firstPod).length = 1
    decide +kernel
  succeed := rfl
  keyed := Memory.keyed_empty.put (.ingress (ingressShowing "a" ips))
  watched := .refl _
  idle := ⟨rfl, rfl⟩

/-- The last pod withdraws the one address of a Service, but two addresses of it stay on the
Ingress. -/
theorem not_withdrawn_of_twoAddresses :
    (LastPod serviceSetting (balancedHost ["1.1.1.1"] ["1.1.1.1"])
        ∧ Withdrawn serviceSetting.config (balancedHost ["1.1.1.1"] ["1.1.1.1"]).around.cluster
          ((Host.shutdown Scene.surroundings serviceSetting).run
            (balancedHost ["1.1.1.1"] ["1.1.1.1"])).value.2.around.cluster)
      ∧ LastPod serviceSetting (balancedHost ["1.1.1.1", "2.2.2.2"] ["1.1.1.1", "2.2.2.2"])
      ∧ ¬ Withdrawn serviceSetting.config
        (balancedHost ["1.1.1.1", "2.2.2.2"] ["1.1.1.1", "2.2.2.2"]).around.cluster
        ((Host.shutdown Scene.surroundings serviceSetting).run
          (balancedHost ["1.1.1.1", "2.2.2.2"]
            ["1.1.1.1", "2.2.2.2"])).value.2.around.cluster := by
  have hone := lastPod_of_balancedHost ["1.1.1.1"] ["1.1.1.1"]
  have htwo := lastPod_of_balancedHost ["1.1.1.1", "2.2.2.2"] ["1.1.1.1", "2.2.2.2"]
  have hreference : readReference serviceSetting.config.publishService
      = .ok ⟨"kube-system", "haproxy"⟩ := by
    decide +kernel
  refine ⟨⟨hone, (withdrawsIfFew_of_lastPod serviceSetting _ hone).2.2.withdrawn_iff.mpr
    (.inl (.inr ?_))⟩, htwo, fun hwithdrawn => ?_⟩
  · exact ⟨_, balancedService ["1.1.1.1"], hreference, by decide +kernel, by decide +kernel⟩
  · obtain hfew | hnothing :=
      (withdrawsIfFew_of_lastPod serviceSetting _ htwo).2.2.withdrawn_iff.mp hwithdrawn
    · obtain hnodes | ⟨r, service, hr, hservice, hlength⟩ := hfew
      · exact absurd hnodes (by decide)
      · -- The reference names the Service with two addresses.
        cases hreference.symm.trans hr
        have hfound : (balancedHost ["1.1.1.1", "2.2.2.2"]
            ["1.1.1.1", "2.2.2.2"]).around.cluster.services.get? "kube-system/haproxy"
            = some (balancedService ["1.1.1.1", "2.2.2.2"]) := by
          decide +kernel
        cases hfound.symm.trans hservice
        exact absurd hlength (by decide +kernel)
    · have hshown := hnothing "default/a" (ingressShowing "a" ["1.1.1.1", "2.2.2.2"])
        (by decide +kernel) (by decide +kernel)
      exact absurd hshown (by decide +kernel)

end IngressController.Status
