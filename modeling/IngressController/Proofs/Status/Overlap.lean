import IngressController.Proofs.Status.Entries
import IngressController.Proofs.Status.InFlight
import IngressController.Proofs.Status.Withdrawal

/-!
# `IngressController.Proofs.Status.Overlap`: a pass in flight when the addresses are withdrawn

A host that shuts down withdraws its addresses while its last pass may still be under way. The pass
is told to end, but only updates that have not begun look at that. An update that is past its check
goes on, and its write may come after that of the withdrawal. And the withdrawal leaves alone every
Ingress of which the watched copy shows no addresses, also if the cluster has some in the meantime.

* `Pass.UnderWay`: a pass that has gone any number of steps, in whatever hosts.
* `Overlap`: a host that withdraws its addresses beside such a pass, with nothing in its way.
* `showsNothing_iff_of_overlap`: all turns of the two leave an Ingress without addresses exactly if
  the pass, left alone, writes no address to it any more, and one of three holds: the watched copy
  shows addresses, the cluster shows none, or the pass still writes the Ingress.
-/

set_option autoImplicit false

namespace IngressController.Status

open Object

/-! ### Passes under way -/

/-- A pass that is under way. Between two of its steps anything may have happened, as long as the
cluster stores each Ingress under its own key. -/
inductive Pass.UnderWay (setting : Setting) : Pass → Prop where
  | begins : UnderWay setting (.publishing setting)
  | goesOn {p : Pass} (hp : UnderWay setting p) (h : Host Scene)
      (hkeyed : h.around.cluster.Keyed) (position : Nat) :
      UnderWay setting ((p.advance (Host.answers Scene.surroundings) position).run h).value.1

/-- An errand of a pass that publishes some entries. -/
def Errand.IsOfPass (entries : List Entry) (e : Errand) : Prop :=
  e.job.token = .endOfPasses ∧ e.job.wanted = entries ∧ e.Keyed

/-- The invariant of a pass if no Ingress gets entries of its own: all errands want the same. -/
def passInvariant (setting : Setting) (hcustom : ∀ ing, setting.custom ing = none) :
    PassInvariant Scene.surroundings where
  deciding d h := h.around.cluster.Keyed
    ∧ d.Ensures Ask.IsSteady (fun _ _ => True) fun r =>
      ∀ us : List Update, r = Except.ok us → setting.Proposes us
  making es h := h.around.cluster.Keyed ∧ ∃ entries, ∀ e ∈ es, e.IsOfPass entries
  deciding_of_alike hd halike := ⟨by rw [halike.around]; exact hd.1, hd.2⟩
  making_of_alike hes halike := ⟨by rw [halike.around]; exact hes.1, hes.2⟩
  step_deciding := by
    rintro d h ⟨hkeyed, hd⟩ -
    exact ⟨((Host.Steady.refl h).step d).keyed hkeyed, hd.step h fun _ _ => trivial⟩
  begin_making := by
    rintro us h ⟨hkeyed, hus⟩
    obtain ⟨entries, ingresses, rfl⟩ := hus us rfl
    -- Without entries of its own, every Ingress is to show the same ones.
    refine ⟨_, runs_ofWork _ _ _ _ ingresses, hkeyed, sortEntries entries, fun e he => ?_⟩
    obtain ⟨ing, -, rfl⟩ := List.mem_map.mp he
    refine ⟨rfl, ?_, Errand.keyed_of_unchecked rfl⟩
    show sortEntries ((setting.custom ing).getD entries) = _
    rw [hcustom ing]
    rfl
  step_making := by
    rintro es h i e ⟨hkeyed, entries, hes⟩ hi
    obtain ⟨htoken, hwanted, he⟩ := hes e (List.mem_of_getElem? hi)
    exact ⟨((Host.Steady.refl h).next e).keyed hkeyed, entries,
      forall_mem_set hes ⟨htoken, hwanted, he.next hkeyed⟩⟩

/-- The updates of a pass that begin after it has been told to end are not due. -/
theorem destined_of_proposes {setting : Setting} {us : List Update} (hus : setting.Proposes us)
    (key : String) (good : List Entry → Prop) {owes : Prop} (hnot : ¬ owes) :
    Destined key good owes us := by
  obtain ⟨entries, ingresses, rfl⟩ := hus
  refine ⟨_, runs_ofWork _ _ _ _ ingresses, fun e he => ?_, fun e he hdue => ?_,
    fun ho => absurd ho hnot⟩
  · obtain ⟨ing, -, rfl⟩ := List.mem_map.mp he
    exact Errand.keyed_of_unchecked rfl
  · obtain ⟨ing, -, rfl⟩ := List.mem_map.mp he
    cases hdue.2

namespace Pass.UnderWay

variable {setting : Setting} {p : Pass}

theorem holds (hp : UnderWay setting p) (hcustom : ∀ ing, setting.custom ing = none)
    {h : Host Scene} (hkeyed : h.around.cluster.Keyed) :
    (passInvariant setting hcustom).Holds p h := by
  induction hp generalizing h with
  | begins => exact ⟨hkeyed, ensures_decidePass setting⟩
  | goesOn hp h' hkeyed' position ih =>
      -- What the invariant says of a pass does not depend on the host, if that is keyed.
      exact ((passInvariant setting hcustom).advance (ih hkeyed') position).transfer
        (fun _ hd => ⟨hkeyed, hd.2⟩) fun _ hes => ⟨hkeyed, hes.2⟩

/-- The pass of a host is under way after all turns. -/
theorem takeAll (hp : UnderWay setting p) {h : Host Scene} (hpass : h.under .pass = some p)
    (hkeyed : h.around.cluster.Keyed) (ts : List Turn) :
    ∃ q, (h.takeAll Scene.surroundings setting ts).under .pass = some q ∧ UnderWay setting q := by
  refine (Host.takeAll_invariant (I := fun h' => h'.around.cluster.Keyed
    ∧ ∃ q, h'.under .pass = some q ∧ UnderWay setting q) ?_ ts ⟨hkeyed, p, hpass, hp⟩).2
  rintro h' ⟨side, position⟩ ⟨hkeyed', q, hq, hunder⟩
  refine ⟨((Host.Steady.refl h').take _).keyed hkeyed', ?_⟩
  cases side with
  | pass =>
      refine ⟨_, ?_, hunder.goesOn h' hkeyed' position⟩
      rw [Host.take_of_some (t := ⟨.pass, position⟩) hq]
      rfl
  | withdrawal =>
      have hne : Side.pass ≠ Side.withdrawal := by decide
      exact ⟨q, (Host.under_take_of_ne (t := ⟨.withdrawal, position⟩) hne).trans hq, hunder⟩

variable {h₀ : Host Scene} {key : String} {copy : Ingress}

/-- No update of such a pass rests, and it has started as many as there is room for. -/
theorem restless_filled (hp : UnderWay setting p) (hcustom : ∀ ing, setting.custom ing = none) :
    p.Restless ∧ p.Filled := by
  have hheld := hp.holds hcustom (h := { around := {}, leadership := { identity := "" } })
    Cluster.Memory.keyed_empty
  cases p with
  | deciding d =>
      refine ⟨hheld.2.mono (fun _ _ => trivial) fun r hr us hus u hu => ?_, trivial⟩
      obtain ⟨entries, ingresses, rfl⟩ := hr us hus
      obtain ⟨ing, -, rfl⟩ := List.mem_map.mp hu
      exact restless_update setting.custom .endOfPasses entries ing
  | updating b =>
      obtain ⟨es, hruns, hfilled, -⟩ := hheld
      exact ⟨⟨hruns.restless, hfilled⟩, hfilled⟩
  | ended result => exact ⟨trivial, trivial⟩

/-- A pass that still decides writes nothing any more. -/
theorem not_wrote_deciding {d : Decision} (hp : UnderWay setting (.deciding d))
    (hcustom : ∀ ing, setting.custom ing = none) (hclosing : h₀.Closing)
    (hcopy : h₀.stored.1.get? key = some copy) (what : List Entry → Prop) :
    ¬ Wrote key what ((Pass.deciding d).writesLeft h₀) := by
  obtain ⟨-, hd⟩ := hp.holds hcustom hclosing.keyed
  refine not_wrote_writesLeft_deciding hclosing hcopy (hp.restless_filled hcustom).1 ?_ what
  exact (hd.expecting fun _ _ _ => trivial).mono (fun _ hq => hq) fun r hr us hus =>
    destined_of_proposes (hr us hus) key _ not_false

theorem not_wrote_ended (result : Except Error (List UpdateOutcome)) (what : List Entry → Prop) :
    ¬ Wrote key what ((Pass.ended result).writesLeft h₀) := by
  rintro ⟨w, hw, -⟩
  have hnone : (Pass.ended result).writesLeft h₀ = [] := List.drop_length
  rw [hnone] at hw
  cases hw

/-- All that a pass still writes to an Ingress is the same. -/
theorem exists_published (hp : UnderWay setting p) (hcustom : ∀ ing, setting.custom ing = none)
    (hclosing : h₀.Closing) (hcopy : h₀.stored.1.get? key = some copy) :
    ∃ entries, ∀ w ∈ p.writesLeft h₀, w.metadata.key = key → w.published = entries := by
  have hheld := hp.holds hcustom hclosing.keyed
  cases p with
  | deciding d =>
      refine ⟨[], fun w hw hkey => ?_⟩
      exact (hp.not_wrote_deciding hcustom hclosing hcopy (fun _ => True)
        ⟨w, hw, hkey, trivial⟩).elim
  | updating b =>
      obtain ⟨es, hruns, hfilled, haccounted, -, entries, hes⟩ := hheld
      refine ⟨entries, fun w hw hkey => ?_⟩
      by_contra hother
      obtain ⟨e, he, -, hwanted⟩ := (wrote_writesLeft_updating_iff hclosing hcopy hruns hfilled
        haccounted (fun e he => (hes e he).2.2) (· ≠ entries)).mp ⟨w, hw, hkey, hother⟩
      exact hwanted (hes e he).2.1
  | ended result =>
      exact ⟨[], fun w hw hkey => (not_wrote_ended result (fun _ => True)
        ⟨w, hw, hkey, trivial⟩).elim⟩

/-- Of a pass it is enough to know what it still writes if it is left alone. -/
theorem holds_endProperty (hp : UnderWay setting p) (hcustom : ∀ ing, setting.custom ing = none)
    (hclosing : h₀.Closing) (hcopy : h₀.stored.1.get? key = some copy) {good : List Entry → Prop}
    (kept owes : Prop) (hgood : ∀ w ∈ p.writesLeft h₀, w.metadata.key = key → good w.published)
    (howes : owes → ∃ w ∈ p.writesLeft h₀, w.metadata.key = key) {h : Host Scene}
    (hs : Host.Steady h₀ h) (hany : Shows key (fun _ => True) h.stored)
    (hkept : kept → Shows key good h.stored) :
    (endProperty hclosing key good kept owes).invariant.Holds p h := by
  have hheld := hp.holds hcustom (hs.keyed hclosing.keyed)
  have hwrites : owes → Wrote key (fun _ => True) (p.writesLeft h₀) := by
    intro ho
    obtain ⟨w, hw, hkey⟩ := howes ho
    exact ⟨w, hw, hkey, trivial⟩
  cases p with
  | deciding d =>
      have hnot : ¬ owes := fun ho => hp.not_wrote_deciding hcustom hclosing hcopy _ (hwrites ho)
      refine ⟨hs, ⟨hany, hkept⟩, ?_⟩
      exact (hheld.2.expecting fun _ _ _ => trivial).mono (fun _ hq => hq) fun r hr =>
        ⟨fun ho => absurd ho hnot, fun us hus => destined_of_proposes (hr us hus) key good hnot⟩
  | updating b =>
      obtain ⟨es, hruns, hfilled, haccounted, -, entries, hes⟩ := hheld
      -- Each errand that is due stands for a write that is left, and each such write for one.
      have hiff := wrote_writesLeft_updating_iff hclosing hcopy hruns hfilled haccounted
        (fun e he => (hes e he).2.2)
      refine ⟨es, hruns, hfilled, haccounted, hs, ⟨hany, hkept⟩, fun e he => (hes e he).2.2,
        fun e he hdue => ?_, fun ho => ?_⟩
      · by_contra hbad
        obtain ⟨w, hw, hkey, hwbad⟩ := (hiff fun entries => ¬ good entries).mpr ⟨e, he, hdue, hbad⟩
        exact hwbad (hgood w hw hkey)
      · obtain ⟨e, he, hdue, -⟩ := (hiff fun _ => True).mp (hwrites ho)
        exact .inr ⟨e, he, hdue⟩
  | ended result =>
      have hnot : ¬ owes := fun ho => not_wrote_ended result _ (hwrites ho)
      cases result with
      | error e =>
          exact ⟨hs, ⟨hany, hkept⟩, fun ho => absurd ho hnot, fun us hus => nomatch hus⟩
      | ok outcomes =>
          obtain ⟨es, hsettled, hperm, -, entries, hes⟩ := hheld
          exact ⟨es, hsettled, hperm, hs, ⟨hany, hkept⟩, fun e he => (hes e he).2.2,
            fun e he hdue => absurd hdue (Errand.not_dueAt_of_settled (hsettled e he)),
            fun ho => absurd ho hnot⟩

end Pass.UnderWay

/-! ### The withdrawal -/

/-- A host withdraws its addresses beside a pass that is under way, with nothing in its way:

- `pass`, `underWay`: the pass is one of the host;
- `custom`: no Ingress gets entries of its own;
- `leading`, `updateOnShutdown`: the host leads and is told to withdraw;
- `addresses`: it finds at most one address;
- `alone`: no other pod of the controller runs;
- `succeeds`, `idle`: no call fails, and nothing cancels the withdrawal;
- `keyed`: the cluster stores each Ingress under its own key;
- `present`: the cluster has the managed ones among the watched Ingresses. -/
structure Overlap (setting : Setting) (p : Pass) (h : Host Scene) : Prop where
  pass : h.pass = some p
  underWay : Pass.UnderWay setting p
  custom : ∀ ing, setting.custom ing = none
  leading : h.leadership.leading = true
  updateOnShutdown : setting.config.updateOnShutdown = true
  addresses : ∃ addresses, (((runningAddresses setting.config setting.pod).run
      (Host.answers Scene.surroundings)).run (h.beginShutdown setting)).value.1 = .ok addresses
    ∧ addresses.length ≤ 1
  alone : (ownPods h.around.cluster setting.pod).length ≤ 1
  succeeds : h.around.cluster.failing = []
  idle : Token.caller.Idle h
  keyed : h.around.cluster.Keyed
  present : ∀ ing ∈ h.around.watched, setting.config.manages ing = true →
    (h.around.cluster.copy? ing).isSome = true

/-- Both the pass and the withdrawal have ended. -/
def Host.HaveEnded (h : Host Scene) : Prop :=
  ∀ side, ∃ result, h.under side = some (.ended result)

/-- The cluster has an Ingress, without any address. -/
def Host.ShowsNothing (h : Host Scene) (ing : Ingress) : Prop :=
  ∃ copy, h.around.cluster.copy? ing = some copy ∧ copy.published = []

/-- A managed one of the watched copies of an Ingress shows an address. -/
def Host.WatchesShown (setting : Setting) (h : Host Scene) (ing : Ingress) : Prop :=
  ∃ copy ∈ h.around.watched, setting.config.manages copy = true
    ∧ copy.metadata.key = ing.metadata.key ∧ copy.published ≠ []

/-- A run to the end gives the value of a program that makes no call about an Ingress. -/
theorem value_run_eq_eval {α : Type} {p : Task α} {h : Host Scene}
    (hp : p.Ensures Ask.IsSteady (fun q a => a = h.reply q) fun _ => True) :
    ((p.run (Host.answers Scene.surroundings)).run h).value.1 = p.eval h.reply :=
  (hp.eval.run (I := Host.Steady h) (fun q hq _ hs => ⟨hs.reply hq, hs.answer q⟩)
    (Host.Steady.refl h)).1

/-- The update of an Ingress to no entries is due if the watched copy shows some. -/
theorem isDue_errand_nil {custom : CustomEntries} {ing : Ingress} (hcustom : custom ing = none) :
    (errand custom .caller [] ing).isDue = true ↔ ing.published ≠ [] := by
  have hwanted : wanted custom [] ing = [] := by
    rw [wanted, hcustom]
    rfl
  show (!sameEntries (sortEntries (wanted custom [] ing)) (sortEntries ing.published)) = true ↔ _
  rw [Bool.not_eq_true', ← Bool.not_eq_true, sameEntries_sortEntries_iff, hwanted, List.map_nil,
    List.nil_perm, List.map_eq_nil_iff]

namespace Overlap

variable {setting : Setting} {p : Pass} {h : Host Scene} {ing : Ingress}

theorem closing (ho : Overlap setting p h) : (h.beginShutdown setting).Closing where
  passesEnd := rfl
  idle := ho.idle
  succeeds := ho.succeeds
  keyed := ho.keyed

/-- The withdrawal decides to take the addresses from all managed Ingresses. -/
theorem eval_decideWithdrawal (ho : Overlap setting p h) :
    (decideWithdrawal setting).eval (h.beginShutdown setting).reply
      = (h.around.watched.filter setting.config.manages).map
          (update setting.custom .caller []) := by
  obtain ⟨addresses, hrun, hfew⟩ := ho.addresses
  rw [value_run_eq_eval (ensures_runningAddresses (fun _ hc => hc) _ _)] at hrun
  have hlist : (h.beginShutdown setting).reply
      (.call (.listPods setting.pod.namespaceName setting.pod.selector))
        = .ok (ownPods h.around.cluster setting.pod) := by
    obtain ⟨-, hlist⟩ | ⟨hfails, -⟩ := reply_listPods (h.beginShutdown setting) setting.pod
    · exact hlist
    · rw [ho.closing.not_fails] at hfails
      cases hfails
  have halone := ho.alone
  have hothers : (hasOtherPods setting.pod).eval (h.beginShutdown setting).reply = false := by
    rw [eval_hasOtherPods, hlist]
    exact decide_eq_false (by omega)
  rw [Status.eval_decideWithdrawal, if_pos ⟨ho.leading, ho.updateOnShutdown⟩, hrun]
  refine if_neg ?_
  rintro (hmany | hsome)
  · omega
  · rw [hothers] at hsome
    cases hsome

/-- The withdrawal writes an Ingress, and then without entries, exactly if a watched copy shows
some. -/
theorem holds_withdrawing (ho : Overlap setting p h) (ing : Ingress) (good : List Entry → Prop)
    (kept owes : Prop) (hgood : h.WatchesShown setting ing → good [])
    (howes : owes → h.WatchesShown setting ing)
    (hany : Shows ing.metadata.key (fun _ => True) (h.beginShutdown setting).stored)
    (hkept : kept → Shows ing.metadata.key good (h.beginShutdown setting).stored) :
    (endProperty ho.closing ing.metadata.key good kept owes).invariant.Holds
      (Pass.withdrawing setting) (h.beginShutdown setting) := by
  refine ⟨Host.Steady.refl _, ⟨hany, hkept⟩,
    (decidesOn_withdrawing setting (h.beginShutdown setting) rfl).mono (fun _ hq => hq) ?_⟩
  rintro r rfl
  refine ⟨fun _ => ⟨_, rfl⟩, fun us hus => ?_⟩
  cases hus
  rw [ho.eval_decideWithdrawal]
  refine ⟨_, runs_ofWork _ _ _ _ h.around.watched, fun e he => ?_, fun e he hdue => ?_,
    fun howed => ?_⟩
  · obtain ⟨ing', -, rfl⟩ := List.mem_map.mp he
    exact Errand.keyed_of_unchecked rfl
  · obtain ⟨ing', hing', rfl⟩ := List.mem_map.mp he
    obtain ⟨hkey, hisDue⟩ := hdue
    obtain ⟨hwatched, hmanages⟩ := List.mem_filter.mp hing'
    show good (sortEntries ((setting.custom ing').getD []))
    rw [ho.custom ing', Option.getD_none, sortEntries_nil]
    exact hgood ⟨ing', hwatched, hmanages, hkey, (isDue_errand_nil (ho.custom ing')).mp hisDue⟩
  · obtain ⟨ing', hwatched, hmanages, hkey, hshown⟩ := howes howed
    refine ⟨errand setting.custom .caller [] ing', List.mem_map_of_mem ?_, hkey, ?_⟩
    · exact List.mem_filter.mpr ⟨hwatched, hmanages⟩
    · exact (isDue_errand_nil (ho.custom ing')).mpr hshown

/-! ### Both -/

/-- What the two owe to an Ingress. -/
def owes (setting : Setting) (p : Pass) (h : Host Scene) (ing : Ingress) : Side → Prop
  | .pass => ∃ w ∈ p.writesLeft h, w.metadata.key = ing.metadata.key
  | .withdrawal => h.WatchesShown setting ing

/-- If all that is still written to an Ingress is good, it shows good entries at the end, as long as
it does so now or something is still written. -/
theorem shows_of_haveEnded (ho : Overlap setting p h) (hing : ing ∈ h.around.watched)
    (hmanages : setting.config.manages ing = true) (good : List Entry → Prop)
    (hpass : ∀ w ∈ p.writesLeft (h.beginShutdown setting), w.metadata.key = ing.metadata.key →
      good w.published) (hwithdrawal : h.WatchesShown setting ing → good [])
    (hreason : Shows ing.metadata.key good (h.beginShutdown setting).stored
      ∨ ∃ side, owes setting p (h.beginShutdown setting) ing side) (ts : List Turn)
    (hend : ((h.beginShutdown setting).takeAll Scene.surroundings setting ts).HaveEnded) :
    Shows ing.metadata.key good
      ((h.beginShutdown setting).takeAll Scene.surroundings setting ts).stored := by
  obtain ⟨copy, hcopy⟩ := Option.isSome_iff_exists.mp (ho.present ing hing hmanages)
  have hany : Shows ing.metadata.key (fun _ => True) (h.beginShutdown setting).stored :=
    ⟨copy, hcopy, trivial⟩
  -- Each side writes only good entries, and owes what it is due to write.
  let I : Side → PassInvariant Scene.surroundings := fun side =>
    (endProperty ho.closing ing.metadata.key good
      (Shows ing.metadata.key good (h.beginShutdown setting).stored)
      (owes setting p (h.beginShutdown setting) ing side)).invariant
  have hjoint : PassInvariant.Joint I (h.beginShutdown setting) := by
    intro side
    cases side with
    | pass => exact ⟨p, ho.pass, ho.underWay.holds_endProperty ho.custom ho.closing hcopy _ _ hpass
        (fun howed => howed) (Host.Steady.refl _) hany fun hkept => hkept⟩
    | withdrawal => exact ⟨_, rfl, ho.holds_withdrawing ing _ _ _ hwithdrawal
        (fun howed => howed) hany fun hkept => hkept⟩
  have hended : ∀ side, ∃ result, (I side).Holds (.ended result)
      ((h.beginShutdown setting).takeAll Scene.surroundings setting ts) := by
    intro side
    obtain ⟨q, hq, hheld⟩ := hjoint.takeAll
      (fun _ _ _ => apart_endProperty ..) setting ts side
    obtain ⟨result, hresult⟩ := hend side
    obtain rfl : q = .ended result := Option.some.inj (hq.symm.trans hresult)
    exact ⟨result, hheld⟩
  obtain hkept | ⟨side, howed⟩ := hreason
  · obtain ⟨result, hheld⟩ := hended .pass
    exact shows_of_ended hheld (.inl hkept)
  · obtain ⟨result, hheld⟩ := hended side
    exact shows_of_ended hheld (.inr howed)

/-- The withdrawal can come to its end before the pass goes on, and the pass after it. What the pass
still writes to an Ingress is then there at the end. -/
theorem exists_turns (ho : Overlap setting p h) :
    ∃ ts, ((h.beginShutdown setting).takeAll Scene.surroundings setting ts).HaveEnded
      ∧ ∀ ing ∈ h.around.watched, setting.config.manages ing = true →
        ∀ good : List Entry → Prop,
          (∀ w ∈ p.writesLeft (h.beginShutdown setting), w.metadata.key = ing.metadata.key →
            good w.published) →
          (∃ w ∈ p.writesLeft (h.beginShutdown setting), w.metadata.key = ing.metadata.key) →
          Shows ing.metadata.key good
            ((h.beginShutdown setting).takeAll Scene.surroundings setting ts).stored := by
  obtain ⟨positions, result, hwithdrawal⟩ := Host.exists_turns Scene.surroundings setting
    .withdrawal (h := h.beginShutdown setting) (p := Pass.withdrawing setting) rfl trivial
  -- The host after the withdrawal; its pass has not gone on.
  let h' := (h.beginShutdown setting).takeAll Scene.surroundings setting
    (positions.map (Turn.mk .withdrawal))
  have hpass : h'.under .pass = some p :=
    (Host.under_takeAll_of_ne (by decide) positions).trans ho.pass
  obtain ⟨positions', result', hended⟩ := Host.exists_turns Scene.surroundings setting .pass
    hpass (ho.underWay.restless_filled ho.custom).2
  have hall : (h.beginShutdown setting).takeAll Scene.surroundings setting
      (positions.map (Turn.mk .withdrawal) ++ positions'.map (Turn.mk .pass))
        = h'.takeAll Scene.surroundings setting (positions'.map (Turn.mk .pass)) :=
    Host.takeAll_append ..
  refine ⟨positions.map (Turn.mk .withdrawal) ++ positions'.map (Turn.mk .pass), ?_, ?_⟩
  · intro side
    rw [hall]
    cases side with
    | pass => exact ⟨result', hended⟩
    | withdrawal =>
        exact ⟨result, (Host.under_takeAll_of_ne (by decide) positions').trans hwithdrawal⟩
  · intro ing hing hmanages good hgood howed
    obtain ⟨copy, hcopy⟩ := Option.isSome_iff_exists.mp (ho.present ing hing hmanages)
    have hsteady : Host.Steady (h.beginShutdown setting) h' := (Host.Steady.refl _).takeAll _
    -- The withdrawal leaves the Ingress in the cluster.
    have hany : Shows ing.metadata.key (fun _ => True) h'.stored := by
      have hheld := ho.holds_withdrawing ing (fun _ => True) False False
        (fun _ => trivial) False.elim ⟨copy, hcopy, trivial⟩ False.elim
      obtain ⟨q, -, hq⟩ := hheld.takeAll setting .withdrawal rfl positions
      exact shows_of_holds hq
    have hheld := ho.underWay.holds_endProperty ho.custom ho.closing hcopy False True hgood
      (fun _ => howed) hsteady hany False.elim
    obtain ⟨q, hq, hq'⟩ := hheld.takeAll setting .pass hpass positions'
    obtain rfl : q = .ended result' := Option.some.inj (hq.symm.trans hended)
    rw [hall]
    exact shows_of_ended hq' (.inr trivial)

end Overlap

/-- A host withdraws its addresses beside a pass that is under way, with nothing in its way. Some
turns bring both to their ends. A managed Ingress among the watched ones shows no address after all
turns that do so, if and only if

- the pass, left alone from the moment on at which it is told to end, writes no address to it, and
- a watched copy of it shows an address, or the cluster has none at that moment, or the pass still
  writes the Ingress. -/
theorem showsNothing_iff_of_overlap {setting : Setting} {p : Pass} {h : Host Scene}
    (ho : Overlap setting p h) :
    (∃ ts, ((h.beginShutdown setting).takeAll Scene.surroundings setting ts).HaveEnded)
      ∧ ∀ ing ∈ h.around.watched, setting.config.manages ing = true →
        ((∀ ts, ((h.beginShutdown setting).takeAll Scene.surroundings setting ts).HaveEnded →
            ((h.beginShutdown setting).takeAll Scene.surroundings setting ts).ShowsNothing ing)
          ↔ (∀ w ∈ p.writesLeft (h.beginShutdown setting),
                w.metadata.key = ing.metadata.key → w.published = [])
              ∧ (h.WatchesShown setting ing ∨ h.ShowsNothing ing
                ∨ ∃ w ∈ p.writesLeft (h.beginShutdown setting),
                  w.metadata.key = ing.metadata.key)) := by
  obtain ⟨ts, hend, hlast⟩ := ho.exists_turns
  refine ⟨⟨ts, hend⟩, fun ing hing hmanages => ⟨fun hall => ⟨?_, ?_⟩, ?_⟩⟩
  · -- An address that the pass still writes is there after the withdrawal.
    intro w hw hkey
    obtain ⟨copy, hcopy⟩ := Option.isSome_iff_exists.mp (ho.present ing hing hmanages)
    obtain ⟨entries, hentries⟩ := ho.underWay.exists_published ho.custom ho.closing hcopy
    obtain ⟨last, hget, hshown⟩ := hlast ing hing hmanages (· = entries) hentries ⟨w, hw, hkey⟩
    obtain ⟨last', hget', hnothing⟩ := hall ts hend
    obtain rfl : last' = last := Option.some.inj (hget'.symm.trans hget)
    rw [hentries w hw hkey, ← hshown]
    exact hnothing
  · -- An address that nothing writes over stays.
    by_contra hnone
    push Not at hnone
    obtain ⟨hwatched, hshown, hunwritten⟩ := hnone
    obtain ⟨copy, hcopy⟩ := Option.isSome_iff_exists.mp (ho.present ing hing hmanages)
    obtain ⟨last, hget, hsome⟩ := ho.shows_of_haveEnded hing hmanages (· ≠ [])
      (fun w hw hkey => absurd hkey (hunwritten w hw)) (fun hw => absurd hw hwatched)
      (.inl ⟨copy, hcopy, fun hempty => hshown ⟨copy, hcopy, hempty⟩⟩) ts hend
    obtain ⟨last', hget', hnothing⟩ := hall ts hend
    obtain rfl : last' = last := Option.some.inj (hget'.symm.trans hget)
    exact hsome hnothing
  · rintro ⟨hpass, hreason⟩ ts' hend'
    refine ho.shows_of_haveEnded hing hmanages (· = []) hpass (fun _ => rfl) ?_ ts' hend'
    obtain hwatched | hshown | hwritten := hreason
    · exact .inr ⟨.withdrawal, hwatched⟩
    · exact .inl hshown
    · exact .inr ⟨.pass, hwritten⟩

/-- A leader in a cluster with an Ingress without addresses, after seven steps of its pass: the
update of the Ingress has read it again. -/
def racingHost : Host Scene :=
  { serviceHost ["ingress-0"] [] [] with pass := some (.publishing serviceSetting) }.takeAll
    Scene.surroundings serviceSetting (List.replicate 7 ⟨.pass, 0⟩)

/-- If this leader shuts down then, some turns leave the Ingress with an address after the
withdrawal. -/
theorem exists_address_left_by_racingHost :
    ∃ ts, ((racingHost.beginShutdown serviceSetting).takeAll Scene.surroundings serviceSetting
        ts).HaveEnded
      ∧ ¬ ((racingHost.beginShutdown serviceSetting).takeAll Scene.surroundings serviceSetting
        ts).ShowsNothing (ingressShowing "a" []) := by
  have hkeyed : (serviceHost ["ingress-0"] [] []).around.cluster.Keyed :=
    Cluster.Memory.keyed_empty.put (.ingress (ingressShowing "a" []))
  obtain ⟨p, hpass, hunder⟩ := Pass.UnderWay.begins.takeAll
    (h := { serviceHost ["ingress-0"] [] [] with pass := some (.publishing serviceSetting) }) rfl
    hkeyed (List.replicate 7 ⟨.pass, 0⟩)
  have ho : Overlap serviceSetting p racingHost :=
    { pass := hpass
      underWay := hunder
      custom := fun _ => rfl
      leading := by decide +kernel
      updateOnShutdown := rfl
      addresses := ⟨["1.1.1.1"], by decide +kernel, by decide⟩
      alone := by decide +kernel
      succeeds := by decide +kernel
      idle := ⟨by decide +kernel, by decide +kernel⟩
      keyed := ((Host.Steady.refl _).takeAll _).keyed hkeyed
      present := by decide +kernel }
  -- Left alone, the pass still writes the address.
  have hwrites : (racingHost.pass.any fun p =>
      (p.writesLeft (racingHost.beginShutdown serviceSetting)).any fun w =>
        w.metadata.key == "default/a" && !w.published.isEmpty) = true := by decide +kernel
  rw [show racingHost.pass = some p from hpass, Option.any_some, List.any_eq_true] at hwrites
  obtain ⟨w, hw, hshown⟩ := hwrites
  rw [Bool.and_eq_true, beq_iff_eq, Bool.not_eq_true', List.isEmpty_eq_false_iff] at hshown
  obtain ⟨-, hiff⟩ := showsNothing_iff_of_overlap ho
  by_contra hnever
  push Not at hnever
  have hnothing := ((hiff (ingressShowing "a" []) (by decide +kernel) (by decide)).mp hnever).1
  exact hshown.2 (hnothing w hw hshown.1)

end IngressController.Status
