import IngressController.Proofs.Status.InFlight
import IngressController.Proofs.Status.Rounds

/-!
# `IngressController.Proofs.Status.SteadyState`: the second of two passes leaves everything alone

A pass publishes the running addresses, and the next one compares them with what it has published.
It does so through two orders: the entries are ordered by IP when they are made, and by host name
and then IP when they are written and when they are compared. So the next pass may find the
addresses in another order, as pods, nodes and load balancer entries are listed in any order. Both
passes are a `Round`, in which everything but the Ingresses may change.

* `UpToDate`: every managed Ingress of a cluster shows the same addresses.
* `Round.upToDate`: a round without a failed update leaves the cluster so.
* `Round.quiet`: a round that finds the cluster so makes no call about an Ingress.
* `quiet_of_second_round`: so the second of two rounds in a row is quiet, if nobody else writes an
  Ingress from the first round on.
-/

set_option autoImplicit false

namespace IngressController.Status

open Object
open Cluster (Memory Call)
open Cluster.Memory (fetchCall)

/-! ### Clusters that are up to date -/

/-- Every managed Ingress shows the same addresses. -/
def UpToDate (config : Config) (entries : List Entry) (stored : TextMap Ingress) : Prop :=
  ∀ key ing, stored.get? key = some ing → config.manages ing = true →
    SameAddresses entries ing.published

/-- Every Ingress is stored under its own key. -/
def StoredByKey (stored : TextMap Ingress) : Prop :=
  ∀ key ing, stored.get? key = some ing → ing.metadata.key = key

/-! ### Errands that keep what they have done -/

namespace Errand

/-- The copy of its Ingress shows some addresses. -/
def Shown (entries : List Entry) (stored : TextMap Ingress) (e : Errand) : Prop :=
  ∃ copy, stored.get? e.job.ing.metadata.key = some copy ∧ SameAddresses entries copy.published

/-- What is known about an errand at its stage, if nobody else writes its Ingress: the copy is the
watched one until it is written, and unless the errand fails, it shows the addresses at the end. -/
def Current (entries : List Entry) (stored : TextMap Ingress) (e : Errand) : Prop :=
  match e.stage with
  | .unchecked | .fetching => stored.get? e.job.ing.metadata.key = some e.job.ing
  | .unchanged => e.Shown entries stored
  | .fetched latest | .publishing latest => latest = e.job.ing
  | .unreadable _ | .rejected _ => True
  | .concluding outcome | .settled (some outcome) => outcome ≠ .failed → e.Shown entries stored
  | .settled none => False

variable {entries : List Entry} {h : Host Scene} {e : Errand}

/-- It depends on the copy of its own Ingress alone. -/
theorem Current.congr {stored stored' : TextMap Ingress} (he : e.Current entries stored)
    (hcopy : stored'.get? e.job.ing.metadata.key = stored.get? e.job.ing.metadata.key) :
    e.Current entries stored' := by
  have hshown : e.Shown entries stored → e.Shown entries stored' := by
    rintro ⟨copy, hget, hsame⟩
    exact ⟨copy, hcopy.trans hget, hsame⟩
  obtain ⟨job, st⟩ := e
  cases st with
  | unchecked => exact hcopy.trans he
  | fetching => exact hcopy.trans he
  | unchanged => exact hshown he
  | unreadable failure => trivial
  | fetched latest => exact he
  | publishing latest => exact he
  | rejected failure => trivial
  | concluding outcome => exact fun ho => hshown (he ho)
  | settled result =>
      cases result with
      | none => exact he
      | some outcome => exact fun ho => hshown (he ho)

/-- An errand that begins leaves its Ingress alone, or goes on to read it again. -/
theorem current_next_unchecked {job : Job} (htoken : job.token = .endOfPasses)
    (hgoesOn : h.passesEnd = false) (hwanted : job.wanted = sortEntries entries)
    (he : (Errand.mk job .unchecked).Current entries h.around.cluster.ingresses) :
    ((Errand.mk job .unchecked).next Scene.surroundings h).1.Current entries
      ((Errand.mk job .unchecked).next Scene.surroundings h).2.around.cluster.ingresses := by
  have hnext : (Errand.mk job .unchecked).next Scene.surroundings h
      = if sameEntries job.wanted (sortEntries job.ing.published) then (⟨job, .unchanged⟩, h)
        else (⟨job, .fetching⟩, h) := by
    have hidle : job.token.Idle h := by
      rw [htoken]
      exact hgoesOn
    rw [Errand.next, Stage.next, hidle.value_cancelled, if_neg Bool.false_ne_true]
    split <;> rfl
  rw [hnext]
  split
  · next hsame =>
      rw [hwanted, sameEntries_sortEntries_iff] at hsame
      exact ⟨job.ing, he, hsame⟩
  · exact he

/-- What is read again is the watched Ingress. -/
theorem current_next_fetching {job : Job}
    (he : (Errand.mk job .fetching).Current entries h.around.cluster.ingresses) :
    ((Errand.mk job .fetching).next Scene.surroundings h).1.Current entries
      ((Errand.mk job .fetching).next Scene.surroundings h).2.around.cluster.ingresses := by
  rw [next_fetching]
  cases houtcome : (h.around.cluster.answer (fetchCall job.ing)).1 with
  | error failure => trivial
  | ok latest =>
      obtain ⟨-, hlatest⟩ := (Memory.answer_fetchCall_eq_ok_iff ..).mp houtcome
      have hcopy : h.around.cluster.copy? job.ing = some job.ing := he
      rw [hcopy] at hlatest
      exact (Option.some.inj hlatest).symm

/-- What is written shows the addresses. -/
theorem current_next_publishing {job : Job} {latest : Ingress}
    (hwanted : job.wanted = sortEntries entries)
    (he : (Errand.mk job (.publishing latest)).Current entries h.around.cluster.ingresses) :
    ((Errand.mk job (.publishing latest)).next Scene.surroundings h).1.Current entries
      ((Errand.mk job (.publishing latest)).next Scene.surroundings
        h).2.around.cluster.ingresses := by
  obtain rfl : latest = job.ing := he
  rw [next_publishing, Host.value_call]
  by_cases haccept : h.around.cluster.Accepts (job.ing.publish job.wanted)
  · rw [Memory.answer_publish_of_accepts haccept]
    intro _
    refine ⟨job.ing.publish job.wanted, ?_, ?_⟩
    · show (TextMap.insert _ _ _).get? _ = _
      rw [TextMap.get?_insert]
      exact if_pos rfl
    · show ((entries.map Entry.address).Perm (job.wanted.map Entry.address))
      rw [hwanted]
      exact ((sortEntries_perm entries).map _).symm
  · rw [Memory.answer_publish_of_not_accepts haccept]
    trivial

/-- A step of an errand keeps what is known about it. -/
theorem Current.next (htoken : e.job.token = .endOfPasses) (hgoesOn : h.passesEnd = false)
    (hwanted : e.job.wanted = sortEntries entries)
    (he : e.Current entries h.around.cluster.ingresses) :
    (e.next Scene.surroundings h).1.Current entries
      (e.next Scene.surroundings h).2.around.cluster.ingresses := by
  obtain ⟨job, st⟩ := e
  cases st with
  | unchecked => exact current_next_unchecked htoken hgoesOn hwanted he
  | unchanged => exact fun _ => he
  | fetching => exact current_next_fetching he
  | unreadable failure => exact fun ho => absurd rfl ho
  | fetched latest => exact he
  | publishing latest => exact current_next_publishing hwanted he
  | rejected failure => exact fun ho => absurd rfl ho
  | concluding outcome => exact he
  | settled result => exact he

end Errand

/-! ### A round that brings the cluster up to date -/

section First

variable {setting : Setting} {entries : List Entry} {listed : List Ingress}
  {stored : TextMap Ingress}

/-- The errands of a pass are about the managed Ingresses of a list, and keep what they have done:

- `current`: each of them does;
- `elsewhere`: no other Ingress is touched. -/
structure Keeping (setting : Setting) (entries : List Entry) (listed : List Ingress)
    (stored : TextMap Ingress) (es : List Errand) (now : TextMap Ingress) : Prop where
  jobs : es.map Errand.job
    = (errands setting.config setting.custom .endOfPasses entries listed).map Errand.job
  current : ∀ e ∈ es, e.Current entries now
  elsewhere : ∀ key, (∀ e ∈ es, e.job.ing.metadata.key ≠ key) → now.get? key = stored.get? key

/-- A step of one errand keeps what all of them have done. -/
theorem Keeping.step {es : List Errand} {h : Host Scene}
    (hes : Keeping setting entries listed stored es h.around.cluster.ingresses)
    (hcustom : ∀ ing, setting.custom ing = none) (hgoesOn : h.passesEnd = false)
    (hdistinct : (listed.map (·.metadata.key)).Nodup) {i : Nat} {e : Errand}
    (hi : es[i]? = some e) :
    Keeping setting entries listed stored (es.set i (e.next Scene.surroundings h).1)
      (e.next Scene.surroundings h).2.around.cluster.ingresses := by
  have hmem := List.mem_of_getElem? hi
  obtain ⟨ing, -, hjob⟩ := exists_managed_of_jobs hes.jobs hmem
  have hjobs := Errand.map_job_set hi
    (show (e.next Scene.surroundings h).1.job = e.job from rfl)
  have hnext := (hes.current e hmem).next (by rw [hjob]; rfl) hgoesOn (by
    rw [hjob]
    show sortEntries ((setting.custom ing).getD entries) = _
    rw [hcustom ing]
    rfl)
  -- The errand writes no Ingress but its own.
  have hframe : ∀ key, e.job.ing.metadata.key ≠ key →
      (e.next Scene.surroundings h).2.around.cluster.ingresses.get? key
        = h.around.cluster.ingresses.get? key := by
    intro key hne
    refine Errand.get?_next (fun latest hstage => ?_) h
    have hlatest := hes.current e hmem
    rw [Errand.Current, hstage] at hlatest
    rw [show latest = e.job.ing from hlatest]
    exact hne
  refine ⟨hjobs.trans hes.jobs, ?_, ?_⟩
  · intro e' he'
    obtain ⟨j, hj⟩ := List.mem_iff_getElem?.mp he'
    by_cases hij : i = j
    · subst hij
      rw [List.getElem?_set_self (List.getElem?_eq_some_iff.mp hi).1] at hj
      cases hj
      exact hnext
    · rw [List.getElem?_set_ne hij] at hj
      refine (hes.current e' (List.mem_of_getElem? hj)).congr (hframe _ ?_)
      exact (key_ne_of_jobs hes.jobs hdistinct hi hj hij).symm
  · intro key hkey
    have hold : ∀ e' ∈ es, e'.job.ing.metadata.key ≠ key := by
      intro e' he'
      have hjob' : e'.job ∈ (es.set i (e.next Scene.surroundings h).1).map Errand.job := by
        rw [hjobs]
        exact List.mem_map_of_mem he'
      obtain ⟨e'', he'', heq⟩ := List.mem_map.mp hjob'
      rw [← heq]
      exact hkey e'' he''
    rw [hframe key (hold e hmem), hes.elsewhere key hold]

/-- The invariant of a pass that has listed some Ingresses. -/
def keepingInvariant (entries : List Entry) (hcustom : ∀ ing, setting.custom ing = none)
    (hkeyed : StoredByKey stored) (hlisted : listed.Perm stored.values)
    (hdistinct : (listed.map (·.metadata.key)).Nodup) : PassInvariant Scene.surroundings where
  deciding d h := d = .done (.ok ((listed.filter setting.config.manages).map
      (update setting.custom .endOfPasses entries)))
    ∧ h.around.cluster.ingresses = stored ∧ h.passesEnd = false
  making es h := Keeping setting entries listed stored es h.around.cluster.ingresses
    ∧ h.passesEnd = false
  deciding_of_alike hd halike :=
    ⟨hd.1, by rw [halike.around]; exact hd.2.1, halike.passesEnd.trans hd.2.2⟩
  making_of_alike hes halike :=
    ⟨by rw [halike.around]; exact hes.1, halike.passesEnd.trans hes.2⟩
  step_deciding hd hne := absurd hd.1 (hne _)
  begin_making := by
    rintro us h ⟨hd, rfl, hgoesOn⟩
    cases hd
    refine ⟨_, runs_ofWork setting.config setting.custom .endOfPasses entries listed,
      ⟨rfl, fun e he => ?_, fun _ _ => rfl⟩, hgoesOn⟩
    obtain ⟨ing, hing, rfl⟩ := List.mem_map.mp he
    obtain ⟨key, hget⟩ := (TextMap.mem_values_iff _ _).mp
      (hlisted.mem_iff.mp (List.mem_filter.mp hing).1)
    show TextMap.get? _ ing.metadata.key = some ing
    rw [hkeyed key ing hget]
    exact hget
  step_making := by
    rintro es h i e ⟨hes, hgoesOn⟩ hi
    refine ⟨hes.step hcustom hgoesOn hdistinct hi, ?_⟩
    exact ((Host.Steady.refl h).next e).passesEnd.trans hgoesOn

/-- When all errands are over and none has failed, every managed Ingress shows the addresses. -/
theorem Keeping.upToDate {es : List Errand} {now : TextMap Ingress}
    (hes : Keeping setting entries listed stored es now) (hkeyed : StoredByKey stored)
    (hlisted : listed.Perm stored.values)
    (hsettled : ∀ e ∈ es, ∃ result, e.stage = .settled result)
    (hsucceeds : ∀ e ∈ es, e.result? ≠ some .failed) : UpToDate setting.config entries now := by
  intro key ing hget hmanages
  by_cases hkey : ∃ e ∈ es, e.job.ing.metadata.key = key
  · obtain ⟨e, he, rfl⟩ := hkey
    obtain ⟨result, hstage⟩ := hsettled e he
    have hcurrent := hes.current e he
    have hresult := hsucceeds e he
    rw [Errand.result?, hstage] at hresult
    rw [Errand.Current, hstage] at hcurrent
    cases result with
    | none => exact hcurrent.elim
    | some outcome =>
        obtain ⟨copy, hcopy, hsame⟩ := hcurrent fun ho => hresult (congrArg some ho)
        cases hget.symm.trans hcopy
        exact hsame
  · -- An Ingress without an errand has not changed, so it has been listed; then it has one.
    have hold := hes.elsewhere key fun e he heq => hkey ⟨e, he, heq⟩
    rw [hget] at hold
    have hing : ing ∈ listed.filter setting.config.manages :=
      List.mem_filter.mpr ⟨hlisted.mem_iff.mpr ((TextMap.mem_values_iff _ _).mpr
        ⟨key, hold.symm⟩), hmanages⟩
    rw [← map_ing_of_jobs hes.jobs] at hing
    obtain ⟨e, he, rfl⟩ := List.mem_map.mp hing
    exact absurd ⟨e, he, hkeyed key _ hold.symm⟩ hkey

end First

/-- Running addresses in another order make entries with the same addresses. -/
theorem sameAddresses_entriesOf {found addresses : List String} (h : found.Perm addresses) :
    SameAddresses (entriesOf found) (entriesOf addresses) :=
  ((entriesOf_perm found).trans ((h.map _).trans (entriesOf_perm addresses).symm)).map _

/-- So whether an Ingress shows them is the same for both orders. -/
theorem UpToDate.of_perm {config : Config} {found addresses : List String}
    {stored : TextMap Ingress} (h : UpToDate config (entriesOf found) stored)
    (hperm : found.Perm addresses) : UpToDate config (entriesOf addresses) stored := by
  intro key ing hget hmanages
  exact (sameAddresses_entriesOf hperm).symm.trans (h key ing hget hmanages)

/-- When a pass that has found the running addresses asks for the watched Ingresses, it is told
those of the cluster, and the addresses are the given ones. -/
theorem Round.listed {setting : Setting} {addresses found : List String}
    {ms ms' ms'' : List (Moment Scene)} {m : Moment Scene} {first last : TextMap Ingress}
    (hr : Round setting addresses ms first last) (hms : ms = ms' ++ m :: ms'')
    (hthrough : (Pass.publishing setting).through Scene.surroundings ms' = .found setting found) :
    m.host.around.watched.Perm m.host.around.cluster.ingresses.values := by
  refine hr.lists (some .ingresses, m) ?_ rfl
  rw [hms, Pass.steps_append, hthrough]
  exact List.mem_append_right _ (List.mem_cons_self ..)

/-- A round without a failed update brings every managed Ingress up to date. -/
theorem Round.upToDate {setting : Setting} {addresses : List String} {ms : List (Moment Scene)}
    {first last : TextMap Ingress} (hr : Round setting addresses ms first last)
    (hcustom : ∀ ing, setting.custom ing = none) (hkeyed : StoredByKey first)
    (hsucceeds : ((Pass.publishing setting).through Scene.surroundings ms).succeeded = true) :
    UpToDate setting.config (entriesOf addresses) last := by
  obtain ⟨d, hthrough, -⟩ | ⟨e, hthrough, -⟩ | ⟨ms', m, ms'', found, hms, hfound, hquiet, hsearch⟩ :=
    through_publishing (s := Scene.surroundings) setting hr.leads
  · rw [hthrough] at hsucceeds
    cases hsucceeds
  · rw [hthrough] at hsucceeds
    cases hsucceeds
  · refine UpToDate.of_perm ?_ (hr.finds found hsearch)
    have hlisted := hr.listed hms hfound
    subst hms
    -- Nothing has been written until the Ingresses are listed.
    obtain ⟨mid, hbefore, hafter⟩ := WritesAlone.append_iff.mp hr.alone
    obtain rfl := hbefore.eq_of_quiet hquiet
    rw [hfound] at hafter
    cases hafter with
    | goesOn rest =>
        have hdistinct : (m.host.around.watched.map (·.metadata.key)).Nodup :=
          (hlisted.map _).nodup_iff.mpr
            (nodup_map_key (show m.host.around.cluster.Keyed from hkeyed))
        -- Any host with what is stored at last will do.
        let atLast : Host Scene :=
          { m.host with
            around := { m.host.around with
              cluster := { m.host.around.cluster with ingresses := last } }
            passesEnd := false }
        have hheld : (keepingInvariant (entriesOf found) hcustom hkeyed hlisted hdistinct).Holds _
            atLast := rest.holds
          (keepingInvariant (entriesOf found) hcustom hkeyed hlisted hdistinct)
          (fun m' hm' => hr.leads m' (by simp [hm']))
          (fun hp hstored hgoesOn => hp.transfer
            (fun d hd => ⟨hd.1, hstored.trans hd.2.1, hgoesOn⟩)
            (fun es hes => ⟨hstored ▸ hes.1, hgoesOn⟩))
          (fun h hstored hgoesOn => ⟨rfl, hstored, hgoesOn⟩) rfl rfl
        rw [Pass.through_append, hfound] at hsucceeds
        change ((Pass.found setting found).after Scene.surroundings m
          |>.through Scene.surroundings ms'').succeeded = true at hsucceeds
        generalize ((Pass.found setting found).after Scene.surroundings m).through
          Scene.surroundings ms'' = p at hheld hsucceeds
        cases p with
        | deciding d => cases hsucceeds
        | updating b => cases hsucceeds
        | ended result =>
            cases result with
            | error e => cases hsucceeds
            | ok outcomes =>
                obtain ⟨es, hsettled, houtcomes, hes, -⟩ := hheld
                refine hes.upToDate hkeyed hlisted hsettled fun e he hresult => ?_
                have hmem : UpdateOutcome.failed ∈ outcomes :=
                  houtcomes.mem_iff.mpr (List.mem_filterMap.mpr ⟨e, he, hresult⟩)
                rw [Pass.succeeded, List.contains_iff_mem.mpr hmem] at hsucceeds
                cases hsucceeds

/-! ### A round that finds the cluster up to date -/

/-- The stages of an update that finds that its Ingress shows what it should, or is cancelled. -/
def Stage.IsAtRest : Stage → Prop
  | .unchecked | .unchanged | .concluding .unchanged => True
  | .settled none | .settled (some .unchanged) => True
  | _ => False

/-- An errand whose Ingress shows what it should, and that has made no call and makes none. -/
structure Errand.AtRest (e : Errand) : Prop where
  same : sameEntries e.job.wanted (sortEntries e.job.ing.published) = true
  stage : e.stage.IsAtRest

section Second

variable {κ : Type} {s : Surroundings κ}

/-- Such an errand stays so, whatever happens around it. -/
theorem Errand.AtRest.next {e : Errand} (he : e.AtRest) (h : Host κ) :
    (e.next s h).1.AtRest := by
  refine ⟨he.same, ?_⟩
  have hsame := he.same
  have hstage := he.stage
  show (e.stage.next s e.job h).1.IsAtRest
  cases hst : e.stage with
  | unchecked =>
      rw [Stage.next, if_pos hsame]
      split <;> trivial
  | unchanged => trivial
  | concluding outcome =>
      rw [hst] at hstage
      cases outcome with
      | unchanged => trivial
      | updated | failed => exact hstage.elim
  | settled result =>
      rw [hst] at hstage
      exact hstage
  | fetching | unreadable _ | fetched _ | publishing _ | rejected _ =>
      rw [hst] at hstage
      exact hstage.elim

/-- It makes no call. -/
theorem Errand.AtRest.not_isAboutIngress {e : Errand} (he : e.AtRest) {q : Ask}
    (hrequest : e.stage.request? e.job = some q) : q.isAboutIngress = false := by
  have hstage := he.stage
  cases hst : e.stage with
  | unchecked =>
      rw [hst] at hrequest
      cases hrequest
      rfl
  | unchanged | concluding outcome | settled result =>
      rw [hst] at hrequest
      cases hrequest
  | fetching | unreadable _ | fetched _ | publishing _ | rejected _ =>
      rw [hst] at hstage
      exact hstage.elim

/-- The invariant of a pass all of whose errands are at rest. -/
def restInvariant (s : Surroundings κ) : PassInvariant s where
  deciding d _ := ∃ us, d = .done (.ok us) ∧ ∃ es, Runs (Batch.ofWork us) es ∧ ∀ e ∈ es, e.AtRest
  making es _ := ∀ e ∈ es, e.AtRest
  deciding_of_alike hd _ := hd
  making_of_alike hes _ := hes
  step_deciding := by
    rintro d h ⟨us, rfl, -⟩ hne
    exact absurd rfl (hne _)
  begin_making := by
    rintro us h ⟨us', hus, es, hruns, hes⟩
    cases hus
    exact ⟨es, hruns, hes⟩
  step_making hes hi := forall_mem_set hes ((hes _ (List.mem_of_getElem? hi)).next _)

/-- A pass at rest makes no call about an Ingress. -/
theorem not_isAboutIngress_of_rest {p : Pass} {h : Host κ} (hp : (restInvariant s).Holds p h)
    {position : Nat} {q : Ask} (hq : p.request? position = some q) : q.isAboutIngress = false := by
  obtain ⟨next, rfl⟩ | ⟨b, rfl, hunit⟩ := Pass.request?_cases hq
  · obtain ⟨us, hd, -⟩ := hp
    cases hd
  · obtain ⟨es, hruns, -, -, hes⟩ := hp
    obtain ⟨e, he, hrequest⟩ := hruns.exists_ask hunit
    exact (hes e (List.mem_of_getElem? he)).not_isAboutIngress hrequest

/-- Nor does it do so in the course of any moments, and all its outcomes are that nothing has
changed. -/
theorem quiet_of_rest {p : Pass} {h : Host κ} (hp : (restInvariant s).Holds p h)
    (ms : List (Moment κ)) :
    p.RequestsOnly s (·.isAboutIngress = false) ms
      ∧ ∀ outcomes, p.through s ms = .ended (.ok outcomes) → ∀ o ∈ outcomes, o = .unchanged := by
  -- The invariant does not look at the host, so it holds in that of any moment.
  have hstep : ∀ {p : Pass} (m : Moment κ), (∃ h, (restInvariant s).Holds p h) →
      ∃ h, (restInvariant s).Holds (p.after s m) h := by
    rintro p m ⟨h, hp⟩
    have hm : (restInvariant s).Holds p m.host := hp.transfer (fun _ hd => hd) fun _ hes => hes
    exact ⟨_, (restInvariant s).advance hm m.position⟩
  refine ⟨Pass.requestsOnly_of_invariant (I := fun p => ∃ h, (restInvariant s).Holds p h) hstep
    (fun _ _ ⟨_, hp⟩ hq => not_isAboutIngress_of_rest hp hq) ⟨h, hp⟩ ms, ?_⟩
  intro outcomes hthrough o ho
  obtain ⟨h', hend⟩ := Pass.through_invariant
    (I := fun p => ∃ h, (restInvariant s).Holds p h) hstep ⟨h, hp⟩ ms
  rw [hthrough] at hend
  obtain ⟨es, -, houtcomes, hes⟩ := hend
  obtain ⟨e, he, hresult⟩ := List.mem_filterMap.mp (houtcomes.mem_iff.mp ho)
  have hstage := (hes e he).stage
  cases hst : e.stage with
  | settled result =>
      rw [Errand.result?, hst] at hresult
      cases hresult
      rw [hst] at hstage
      cases o with
      | unchanged => rfl
      | updated | failed => exact hstage.elim
  | unchecked | unchanged | fetching | unreadable _ | fetched _ | publishing _ | rejected _
  | concluding _ =>
      rw [Errand.result?, hst] at hresult
      cases hresult

end Second

/-- What a pass does that finds everything as it should be:

- `requests`: it neither reads an Ingress again nor writes one;
- `stored`: it leaves the cluster as it is;
- `outcomes`: if it ends, its outcomes are that nothing has changed. -/
structure Quiet (setting : Setting) (ms : List (Moment Scene)) (first last : TextMap Ingress) :
    Prop where
  requests : ∀ q ∈ (Pass.publishing setting).requests Scene.surroundings ms,
    q.isAboutIngress = false
  stored : last = first
  outcomes : ∀ outcomes,
    (Pass.publishing setting).through Scene.surroundings ms = .ended (.ok outcomes) →
      ∀ o ∈ outcomes, o = .unchanged

/-- The errands of an Ingress that is up to date are at rest when they begin. -/
theorem atRest_errand {custom : CustomEntries} {ing : Ingress} (hcustom : custom ing = none)
    (token : Token) {entries : List Entry} (h : SameAddresses entries ing.published) :
    (errand custom token entries ing).AtRest where
  same := by
    show sameEntries (sortEntries ((custom ing).getD entries)) (sortEntries ing.published) = true
    rw [hcustom]
    exact (sameEntries_sortEntries_iff _ _).mpr h
  stage := trivial

/-- A round that finds the cluster up to date is quiet. -/
theorem Round.quiet {setting : Setting} {addresses : List String} {ms : List (Moment Scene)}
    {first last : TextMap Ingress} (hr : Round setting addresses ms first last)
    (hcustom : ∀ ing, setting.custom ing = none)
    (hupToDate : UpToDate setting.config (entriesOf addresses) first) :
    Quiet setting ms first last := by
  obtain ⟨d, hthrough, hquiet⟩ | ⟨e, hthrough, hquiet⟩ |
      ⟨ms', m, ms'', found, hms, hfound, hquiet, hsearch⟩ :=
    through_publishing (s := Scene.surroundings) setting hr.leads
  · exact ⟨hquiet, hr.alone.eq_of_quiet hquiet, fun _ h => by rw [hthrough] at h; cases h⟩
  · exact ⟨hquiet, hr.alone.eq_of_quiet hquiet, fun _ h => by rw [hthrough] at h; cases h⟩
  · have hlisted := hr.listed hms hfound
    have hperm := (hr.finds found hsearch).symm
    subst hms
    -- What is listed is what was stored at first, since nothing has been written until then.
    obtain ⟨mid, hbefore, hafter⟩ := WritesAlone.append_iff.mp hr.alone
    obtain rfl := hbefore.eq_of_quiet hquiet
    rw [hfound] at hafter
    cases hafter with
    | goesOn rest =>
        have hrest : (restInvariant Scene.surroundings).Holds
            ((Pass.found setting found).after Scene.surroundings m) m.host := by
          refine ⟨_, rfl, _, runs_ofWork setting.config setting.custom .endOfPasses
            (entriesOf found) m.host.around.watched, fun e he => ?_⟩
          obtain ⟨ing, hing, rfl⟩ := List.mem_map.mp he
          obtain ⟨hwatched, hmanages⟩ := List.mem_filter.mp hing
          obtain ⟨key, hget⟩ := (TextMap.mem_values_iff _ _).mp (hlisted.mem_iff.mp hwatched)
          exact atRest_errand (hcustom ing) _ (hupToDate.of_perm hperm key ing hget hmanages)
        obtain ⟨hrequests, houtcomes⟩ := quiet_of_rest hrest ms''
        have hall : (Pass.publishing setting).RequestsOnly Scene.surroundings
            (·.isAboutIngress = false) (ms' ++ m :: ms'') := by
          refine Pass.requestsOnly_append.mpr ⟨hquiet, ?_⟩
          rw [hfound]
          refine Pass.requestsOnly_cons.mpr ⟨fun q hq => ?_, hrequests⟩
          cases hq
          rfl
        refine ⟨hall, hr.alone.eq_of_quiet hall, fun outcomes hthrough => ?_⟩
        rw [Pass.through_append, hfound] at hthrough
        exact houtcomes outcomes hthrough

/-- Of two rounds in a row, in which no Ingress gets addresses of its own and between which nobody
writes one, the second is quiet if no update of the first has failed. Pods, nodes, Services and
what calls fail may be others in the second one, as long as the addresses are the same in some
order. -/
theorem quiet_of_second_round (setting : Setting) (hcustom : ∀ ing, setting.custom ing = none)
    {addresses : List String} {ms₁ ms₂ : List (Moment Scene)} {first mid last : TextMap Ingress}
    (hkeyed : StoredByKey first) (hfirst : Round setting addresses ms₁ first mid)
    (hsucceeds : ((Pass.publishing setting).through Scene.surroundings ms₁).succeeded = true)
    (hsecond : Round setting addresses ms₂ mid last) : Quiet setting ms₂ mid last :=
  hsecond.quiet hcustom (hfirst.upToDate hcustom hkeyed hsucceeds)

/-- A leader with pods of the controller on two nodes, listed in some order, and Ingresses that are
watched as the cluster has them. -/
def nodeHost (pods : List (String × String)) (stored : TextMap Ingress) : Host Scene where
  around :=
    { cluster :=
        { pods := pods.map fun (name, node) =>
            { controllerPod name with spec := some { nodeName := some node } }
          nodes := TextMap.ofList [("node-1",
              { status := some { addresses := some [⟨"ExternalIP", "1.1.1.1"⟩] } }),
            ("node-2", { status := some { addresses := some [⟨"ExternalIP", "2.2.2.2"⟩] } })]
          ingresses := stored }
      watched := stored.values }
  leadership := Leadership.holding "ingress-0"

/-- The setting of such a leader. -/
def nodeSetting : Setting where
  pod := firstPod

/-- What its cluster stores after a pass. -/
def storedAfter (pods : List (String × String)) (stored : TextMap Ingress) : TextMap Ingress :=
  (((Pass.publishing nodeSetting).finish (Host.answers Scene.surroundings)).run
    (nodeHost pods stored)).value.2.around.cluster.ingresses

/-- A pod on each of the nodes. -/
def scattered : List (String × String) :=
  [("ingress-0", "node-1"), ("ingress-1", "node-2")]

/-- An Ingress that shows another address. -/
def outdated : TextMap Ingress :=
  TextMap.ofList [("default/a", ingressShowing "a" ["3.3.3.3"])]

/-- The Ingress after a pass. -/
def broughtUpToDate : TextMap Ingress :=
  storedAfter scattered outdated

/-- Nothing is in the way of such a leader. -/
theorem unhindered_nodeHost (pods : List (String × String)) {stored : TextMap Ingress}
    {found : List String} (hkeyed : StoredByKey stored)
    (hfinds : (runningAddresses nodeSetting.config nodeSetting.pod).eval
      (nodeHost pods stored).reply = .ok found) :
    Unhindered nodeSetting found (nodeHost pods stored) where
  leads := ⟨rfl, rfl, rfl⟩
  succeed := rfl
  keyed := hkeyed
  watched := .refl _
  finds := hfinds

/-- A pass brings an Ingress up to date with the addresses of two nodes. The next one is told of the
pods in another order, so that it finds the addresses in another order, and makes no call about the
Ingress. -/
theorem quiet_after_reordering :
    ¬ UpToDate nodeSetting.config (entriesOf ["1.1.1.1", "2.2.2.2"]) outdated
      ∧ ∃ ms₁ ms₂,
        nodeSetting.search Scene.surroundings ms₁ = .done (.ok ["1.1.1.1", "2.2.2.2"])
          ∧ Round nodeSetting ["1.1.1.1", "2.2.2.2"] ms₁ outdated broughtUpToDate
          ∧ nodeSetting.search Scene.surroundings ms₂ = .done (.ok ["2.2.2.2", "1.1.1.1"])
          ∧ Round nodeSetting ["1.1.1.1", "2.2.2.2"] ms₂ broughtUpToDate
            (storedAfter scattered.reverse broughtUpToDate)
          ∧ ((Pass.publishing nodeSetting).through Scene.surroundings ms₂).succeeded = true
          ∧ Quiet nodeSetting ms₂ broughtUpToDate
            (storedAfter scattered.reverse broughtUpToDate) := by
  have hkeyed : StoredByKey outdated :=
    Memory.Keyed.insert Memory.keyed_empty (ingressShowing "a" ["3.3.3.3"])
  obtain ⟨ms₁, hround₁, hsucceeded₁, hsearch₁, hkeyed₁⟩ :=
    (unhindered_nodeHost scattered hkeyed (by decide +kernel)).exists_round
      (.refl ["1.1.1.1", "2.2.2.2"]) rfl
  obtain ⟨ms₂, hround₂, hsucceeded₂, hsearch₂, -⟩ :=
    (unhindered_nodeHost scattered.reverse hkeyed₁ (by decide +kernel)).exists_round
      (.swap "1.1.1.1" "2.2.2.2" []) rfl
  refine ⟨fun h => ?_, ms₁, ms₂, hsearch₁, hround₁, hsearch₂, hround₂, hsucceeded₂,
    quiet_of_second_round nodeSetting (fun _ => rfl) hkeyed hround₁ hsucceeded₁ hround₂⟩
  -- One address is shown at first.
  have hsame := h "default/a" (ingressShowing "a" ["3.3.3.3"]) (by decide +kernel)
    (by decide +kernel)
  have hlength := hsame.length_eq
  rw [List.length_map, (entriesOf_perm _).length_eq] at hlength
  exact absurd hlength (by decide +kernel)

end IngressController.Status
