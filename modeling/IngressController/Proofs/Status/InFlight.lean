import IngressController.Proofs.Status.Decision
import IngressController.Proofs.Status.Stored

/-!
# `IngressController.Proofs.Status.InFlight`: what errands still write

When a host closes, it tells its passes to end. An update of a pass that has not begun then does
nothing, but one that has found its Ingress in need of addresses goes on to write them. So every
errand is either due or not, from the moment on at which the host closes, and no step changes that
but the write itself.

* `Errand.stepAt`: a step leaves an errand due or not, as it was, or makes the write that is due.
* `endProperty`: what one Ingress shows when all errands are over, from what is due.
* `Pass.writesLeft`: what a pass still writes if it is left alone.
  `wrote_writesLeft_updating_iff` tells it from the errands that are due.
-/

set_option autoImplicit false

namespace IngressController.Status

open Object
open Cluster (Memory Call)
open Cluster.Memory (fetchCall)

/-- A host has told its passes to end and nothing else stands in the way of its errands:

- `passesEnd`: updates of passes that have not begun are cancelled;
- `idle`: those of the withdrawal are not;
- `succeeds`: no call fails;
- `keyed`: the cluster stores each Ingress under its own key. -/
structure Host.Closing (h : Host Scene) : Prop where
  passesEnd : h.passesEnd = true
  idle : Token.caller.Idle h
  succeeds : h.around.cluster.failing = []
  keyed : h.around.cluster.Keyed

theorem Host.Closing.of_steady {h₀ h : Host Scene} (hclosing : h₀.Closing)
    (hs : Host.Steady h₀ h) : h.Closing where
  passesEnd := hs.passesEnd.trans hclosing.passesEnd
  idle := hclosing.idle.of_steady hs
  succeeds := hs.failing_eq.trans hclosing.succeeds
  keyed := hs.keyed hclosing.keyed

theorem Host.Closing.not_fails {h : Host Scene} (hclosing : h.Closing) (c : Call) :
    h.around.cluster.fails c = false :=
  Memory.not_fails_of_succeeds hclosing.succeeds c

namespace Errand

/-- The Ingress that an errand has read again has the key of the one that it is about. -/
def Keyed (e : Errand) : Prop :=
  ∀ latest, e.stage = .fetched latest ∨ e.stage = .publishing latest →
    latest.metadata.key = e.job.ing.metadata.key

theorem keyed_of_unchecked {e : Errand} (h : e.stage = .unchecked) : e.Keyed := by
  rintro latest (hlatest | hlatest)
  · rw [h] at hlatest
    cases hlatest
  · rw [h] at hlatest
    cases hlatest

/-- A step keeps an errand keyed if the cluster is. -/
theorem Keyed.next {e : Errand} (he : e.Keyed) {h : Host Scene}
    (hkeyed : h.around.cluster.Keyed) : (e.next Scene.surroundings h).1.Keyed := by
  obtain ⟨job, st⟩ := e
  -- Only two stages hold an Ingress that has been read again, and only one of them is new.
  cases st with
  | unchecked =>
      rw [Errand.next, Stage.next]
      split
      · rintro latest (hlatest | hlatest) <;> cases hlatest
      · split <;> rintro latest (hlatest | hlatest) <;> cases hlatest
  | fetching =>
      rw [next_fetching]
      intro latest hlatest
      cases houtcome : (h.around.cluster.answer (fetchCall job.ing)).1 with
      | error failure =>
          simp only [houtcome] at hlatest
          obtain hlatest | hlatest := hlatest <;> cases hlatest
      | ok copy =>
          -- The cluster gives the copy that it stores under the key of the job.
          obtain ⟨-, hcopy⟩ := (Memory.answer_fetchCall_eq_ok_iff ..).mp houtcome
          simp only [houtcome] at hlatest
          obtain hlatest | hlatest := hlatest <;> cases hlatest
          exact hkeyed _ _ hcopy
  | fetched copy =>
      rintro latest (hlatest | hlatest) <;> cases hlatest
      exact he copy (.inl rfl)
  | publishing copy =>
      rw [next_publishing]
      intro latest hlatest
      cases houtcome : (h.around.cluster.answer (.publish (copy.publish job.wanted))).1 with
      | error failure =>
          simp only [houtcome] at hlatest
          obtain hlatest | hlatest := hlatest <;> cases hlatest
      | ok done =>
          simp only [houtcome] at hlatest
          obtain hlatest | hlatest := hlatest <;> cases hlatest
  | unchanged => rintro latest (hlatest | hlatest) <;> cases hlatest
  | unreadable failure => rintro latest (hlatest | hlatest) <;> cases hlatest
  | rejected failure => rintro latest (hlatest | hlatest) <;> cases hlatest
  | concluding outcome => rintro latest (hlatest | hlatest) <;> cases hlatest
  | settled result => rintro latest (hlatest | hlatest) <;> cases hlatest

/-- Whether an errand still writes, in a host that closes. -/
def isDue (e : Errand) : Bool :=
  match e.stage with
  | .unchecked =>
    match e.job.token with
    | .endOfPasses => false
    | .caller => !sameEntries e.job.wanted (sortEntries e.job.ing.published)
  | .fetching | .fetched _ | .publishing _ => true
  | _ => false

/-- An errand still writes the Ingress with a key. -/
def DueAt (key : String) (e : Errand) : Prop :=
  e.job.ing.metadata.key = key ∧ e.isDue = true

theorem not_dueAt_of_settled {e : Errand} {key : String} (h : ∃ result, e.stage = .settled result) :
    ¬ e.DueAt key := by
  rintro ⟨-, hdue⟩
  obtain ⟨result, hstage⟩ := h
  rw [isDue, hstage] at hdue
  cases hdue

/-- What a step of an errand does for the Ingress with a key: nothing, whatever it writes beside it,
or the write that is due. -/
inductive StepAt (key : String) (e e' : Errand)
    (stored stored' : TextMap Ingress × List Ingress) : Prop where
  | beside (others : List Ingress) (hdue : e'.DueAt key ↔ e.DueAt key)
      (hcopy : stored'.1.get? key = stored.1.get? key) (hwrites : stored'.2 = stored.2 ++ others)
      (hothers : ∀ w ∈ others, w.metadata.key ≠ key)
  | writes (written : Ingress) (hdue : e.DueAt key) (hdone : ¬ e'.DueAt key)
      (hkey : written.metadata.key = key) (hpublished : written.published = e.job.wanted)
      (hcopy : stored'.1.get? key = some written) (hwrites : stored'.2 = stored.2 ++ [written])

section Steps

variable {h : Host Scene} {key : String} {job : Job}

/-- A step that stores nothing and leaves the errand due or not. -/
theorem stepAt_quiet {e e' : Errand} {stored : TextMap Ingress × List Ingress}
    (hdue : e'.DueAt key ↔ e.DueAt key) : StepAt key e e' stored stored :=
  .beside [] hdue rfl (List.append_nil _).symm fun _ hw => nomatch hw

theorem stepAt_unchecked (hclosing : h.Closing) :
    StepAt key ⟨job, .unchecked⟩ ((Errand.mk job .unchecked).next Scene.surroundings h).1
      h.stored ((Errand.mk job .unchecked).next Scene.surroundings h).2.stored := by
  obtain ⟨ing, wanted, token⟩ := job
  rw [Errand.next, Stage.next]
  cases token with
  | endOfPasses =>
      -- The errand is cancelled. It was not due.
      have hcancelled : ((Host.answers Scene.surroundings (.cancelled .endOfPasses)).run h).value.1
          = true := hclosing.passesEnd
      rw [if_pos hcancelled]
      exact stepAt_quiet (and_congr_right fun _ => Iff.rfl)
  | caller =>
      -- The errand goes on, and is due if it has to.
      rw [hclosing.idle.value_cancelled, if_neg Bool.false_ne_true]
      split
      · next hsame =>
          refine stepAt_quiet (and_congr_right fun _ => ?_)
          show false = true ↔ (!sameEntries wanted (sortEntries ing.published)) = true
          rw [hsame]
          decide
      · next hsame =>
          refine stepAt_quiet (and_congr_right fun _ => ?_)
          show true = true ↔ (!sameEntries wanted (sortEntries ing.published)) = true
          rw [Bool.eq_false_iff.mpr hsame]
          decide

theorem stepAt_fetching (hclosing : h.Closing) (hcopy : (h.stored.1.get? key).isSome = true) :
    StepAt key ⟨job, .fetching⟩ ((Errand.mk job .fetching).next Scene.surroundings h).1
      h.stored ((Errand.mk job .fetching).next Scene.surroundings h).2.stored := by
  have hstored : ((Errand.mk job .fetching).next Scene.surroundings h).2.stored = h.stored := by
    rw [next_fetching, Host.value_call]
    show (h.around.cluster.answer (fetchCall job.ing)).2.stored = _
    rw [Memory.answer_fetchCall_snd]
    rfl
  rw [hstored]
  refine stepAt_quiet (and_congr_right fun hkey => ?_)
  -- The Ingress is there, so the errand does read it.
  have hkey' : job.ing.metadata.key = key := hkey
  obtain ⟨latest, hlatest⟩ := Option.isSome_iff_exists.mp hcopy
  have houtcome : (h.around.cluster.answer (fetchCall job.ing)).1 = .ok latest :=
    (Memory.answer_fetchCall_eq_ok_iff ..).mpr
      ⟨hclosing.not_fails _, by rw [Memory.copy?, hkey']; exact hlatest⟩
  rw [next_fetching, houtcome]
  exact Iff.rfl

theorem stepAt_publishing (hclosing : h.Closing) {latest : Ingress}
    (hlatest : latest.metadata.key = job.ing.metadata.key) :
    StepAt key ⟨job, .publishing latest⟩
      ((Errand.mk job (.publishing latest)).next Scene.surroundings h).1
      h.stored ((Errand.mk job (.publishing latest)).next Scene.surroundings h).2.stored := by
  have haccepts : h.around.cluster.Accepts (latest.publish job.wanted) := hclosing.not_fails _
  rw [next_publishing, Host.value_call]
  show StepAt _ _ _ _ (h.around.cluster.answer (.publish (latest.publish job.wanted))).2.stored
  rw [Memory.answer_publish_of_accepts haccepts]
  have hdone : ∀ outcome, ¬ (Errand.mk job (.concluding outcome)).DueAt key :=
    fun outcome hdue => nomatch hdue.2
  -- The write is either the one that is due, or about another Ingress.
  by_cases hkey : job.ing.metadata.key = key
  · refine .writes (latest.publish job.wanted) ⟨hkey, rfl⟩ (hdone _) (hlatest.trans hkey) rfl ?_ rfl
    show (TextMap.insert _ _ _).get? key = _
    rw [TextMap.get?_insert]
    exact if_pos (hlatest.trans hkey)
  · have hother : (latest.publish job.wanted).metadata.key ≠ key :=
      fun hk => hkey (hlatest.symm.trans hk)
    refine .beside [latest.publish job.wanted] (iff_of_false (hdone _) fun hdue => hkey hdue.1) ?_
      rfl ?_
    · show (TextMap.insert _ _ _).get? key = _
      rw [TextMap.get?_insert]
      exact if_neg hother
    · intro w hw
      rw [List.mem_singleton.mp hw]
      exact hother

/-- A step of an errand in a host that closes, for an Ingress that the cluster has. -/
theorem stepAt (hclosing : h.Closing) {e : Errand} (he : e.Keyed)
    (hcopy : (h.stored.1.get? key).isSome = true) :
    StepAt key e (e.next Scene.surroundings h).1 h.stored
      (e.next Scene.surroundings h).2.stored := by
  obtain ⟨job, st⟩ := e
  cases st with
  | unchecked => exact stepAt_unchecked hclosing
  | fetching => exact stepAt_fetching hclosing hcopy
  | publishing latest => exact stepAt_publishing hclosing (he latest (.inr rfl))
  | unchanged => exact stepAt_quiet Iff.rfl
  | unreadable failure => exact stepAt_quiet Iff.rfl
  | fetched latest => exact stepAt_quiet Iff.rfl
  | rejected failure => exact stepAt_quiet Iff.rfl
  | concluding outcome => exact stepAt_quiet Iff.rfl
  | settled result => exact stepAt_quiet Iff.rfl

end Steps

namespace StepAt

variable {key : String} {e e' : Errand} {stored stored' : TextMap Ingress × List Ingress}

/-- No step makes an errand due that was not. -/
theorem dueAt (hstep : StepAt key e e' stored stored') (hdue : e'.DueAt key) : e.DueAt key := by
  cases hstep with
  | beside others hiff hcopy hwrites hothers => exact hiff.mp hdue
  | writes written hdue' hdone hkey hpublished hcopy hwrites => exact hdue'

/-- No step takes a write back. -/
theorem length_le (hstep : StepAt key e e' stored stored') :
    stored.2.length ≤ stored'.2.length := by
  cases hstep with
  | beside others hdue hcopy hwrites hothers =>
      rw [hwrites, List.length_append]
      omega
  | writes written hdue hdone hkey hpublished hcopy hwrites =>
      rw [hwrites, List.length_append]
      omega

end StepAt

end Errand

/-! ### Lists of errands of which one goes on -/

section Set

variable {α : Type} {l : List α} {i : Nat} {a a' : α}

theorem mem_set_of_getElem? (hi : l[i]? = some a) : a' ∈ l.set i a' :=
  List.mem_set (List.getElem?_eq_some_iff.mp hi).1 a'

/-- What some element satisfies, the replaced one or one of the new list satisfies. -/
theorem exists_mem_set (hi : l[i]? = some a) {P : α → Prop} (h : ∃ x ∈ l, P x) :
    P a ∨ ∃ x ∈ l.set i a', P x := by
  obtain ⟨x, hx, hpx⟩ := h
  obtain ⟨j, hj⟩ := List.mem_iff_getElem?.mp hx
  by_cases hij : i = j
  · subst hij
    rw [hi] at hj
    cases hj
    exact .inl hpx
  · exact .inr ⟨x, List.mem_of_getElem? ((List.getElem?_set_ne hij).trans hj), hpx⟩

/-- What all elements satisfy, all of the new list satisfy if the new one does. -/
theorem forall_mem_set {P : α → Prop} (h : ∀ x ∈ l, P x) (ha' : P a') :
    ∀ x ∈ l.set i a', P x := by
  intro x hx
  obtain hx | rfl := List.mem_or_eq_of_mem_set hx
  · exact h x hx
  · exact ha'

end Set

/-! ### What an Ingress shows at the end -/

/-- The cluster has the Ingress with a key, and its entries are `good`. -/
def Shows (key : String) (good : List Entry → Prop) (stored : TextMap Ingress × List Ingress) :
    Prop :=
  ∃ copy, stored.1.get? key = some copy ∧ good copy.published

theorem Shows.isSome {key : String} {good : List Entry → Prop}
    {stored : TextMap Ingress × List Ingress} (hs : Shows key good stored) :
    (stored.1.get? key).isSome = true := by
  obtain ⟨copy, hcopy, -⟩ := hs
  rw [hcopy]
  rfl

/-- A step keeps good entries if those that are due are good. -/
theorem Shows.step {key : String} {e e' : Errand} {stored stored' : TextMap Ingress × List Ingress}
    {good : List Entry → Prop} (hs : Shows key good stored)
    (hstep : Errand.StepAt key e e' stored stored') (hgood : e.DueAt key → good e.job.wanted) :
    Shows key good stored' := by
  cases hstep with
  | beside others hdue hcopy hwrites hothers =>
      obtain ⟨copy, hget, hcopygood⟩ := hs
      exact ⟨copy, hcopy.trans hget, hcopygood⟩
  | writes written hdue hdone hkey hpublished hcopy hwrites =>
      refine ⟨written, hcopy, ?_⟩
      rw [hpublished]
      exact hgood hdue

/-- Updates whose errands are keyed, write only good entries to the Ingress with a key, and write it
at least once if `owes`. -/
def Destined (key : String) (good : List Entry → Prop) (owes : Prop) (us : List Update) : Prop :=
  ∃ es, Runs (Batch.ofWork us) es ∧ (∀ e ∈ es, e.Keyed)
    ∧ (∀ e ∈ es, e.DueAt key → good e.job.wanted) ∧ (owes → ∃ e ∈ es, e.DueAt key)

/-- Only good entries are written to the Ingress with a key. It shows good entries at all times if
`kept`, and at the end if `owes`. -/
def endProperty {h₀ : Host Scene} (hclosing : h₀.Closing) (key : String)
    (good : List Entry → Prop) (kept owes : Prop) : StoredProperty h₀ where
  decided r := (owes → ∃ us, r = .ok us) ∧ ∀ us, r = .ok us → Destined key good owes us
  always stored := Shows key (fun _ => True) stored ∧ (kept → Shows key good stored)
  errands es stored := (∀ e ∈ es, e.Keyed) ∧ (∀ e ∈ es, e.DueAt key → good e.job.wanted)
    ∧ (owes → Shows key good stored ∨ ∃ e ∈ es, e.DueAt key)
  begin_errands := by
    rintro us stored ⟨-, hus⟩ -
    obtain ⟨es, hruns, hkeyed, hgood, hdue⟩ := hus us rfl
    exact ⟨es, hruns, hkeyed, hgood, fun ho => .inr (hdue ho)⟩
  step_errands := by
    rintro es h i e hsteady ⟨hany, hkept⟩ ⟨hkeyed, hgood, howes⟩ hi
    have hmem := List.mem_of_getElem? hi
    have hhost := hclosing.of_steady hsteady
    have hstep := Errand.stepAt hhost (hkeyed e hmem) hany.isSome
    refine ⟨⟨hany.step hstep fun _ => trivial, fun hk => (hkept hk).step hstep (hgood e hmem)⟩,
      forall_mem_set hkeyed ((hkeyed e hmem).next hhost.keyed),
      forall_mem_set hgood fun hdue => hgood e hmem (hstep.dueAt hdue), fun ho => ?_⟩
    obtain hshows | hdue := howes ho
    · exact .inl (hshows.step hstep (hgood e hmem))
    · -- Either this errand was the due one, or another one still is.
      obtain hdue | hdue := exists_mem_set hi hdue
      · cases hstep with
        | beside others hiff hcopy hwrites hothers =>
            exact .inr ⟨_, mem_set_of_getElem? hi, hiff.mpr hdue⟩
        | writes written _ hdone hkey hpublished hcopy hwrites =>
            refine .inl ⟨written, hcopy, ?_⟩
            rw [hpublished]
            exact hgood e hmem hdue
      · exact .inr hdue

section EndProperty

variable {h₀ h : Host Scene} {hclosing : h₀.Closing} {key : String} {good : List Entry → Prop}
  {kept owes : Prop}

/-- At the end of a pass the Ingress shows good entries, if it does so at all times or the pass owes
them. -/
theorem shows_of_ended {result : Except Error (List UpdateOutcome)}
    (hend : (endProperty hclosing key good kept owes).invariant.Holds (.ended result) h)
    (hreason : kept ∨ owes) : Shows key good h.stored := by
  cases result with
  | error e =>
      obtain ⟨-, ⟨-, hkept⟩, hdecided, -⟩ := hend
      obtain hk | ho := hreason
      · exact hkept hk
      · obtain ⟨us, hus⟩ := hdecided ho
        cases hus
  | ok outcomes =>
      obtain ⟨es, hsettled, -, -, ⟨-, hkept⟩, -, -, howes⟩ := hend
      obtain hk | ho := hreason
      · exact hkept hk
      · obtain hshows | ⟨e, he, hdue⟩ := howes ho
        · exact hshows
        · exact absurd hdue (Errand.not_dueAt_of_settled (hsettled e he))

/-- The Ingress is there at all times. -/
theorem shows_of_holds {p : Pass}
    (hp : (endProperty hclosing key good kept owes).invariant.Holds p h) :
    Shows key (fun _ => True) h.stored := by
  cases p with
  | deciding d => exact hp.2.1.1
  | updating b =>
      obtain ⟨es, -, -, -, -, halways, -⟩ := hp
      exact halways.1
  | ended result =>
      cases result with
      | error e => exact hp.2.1.1
      | ok outcomes =>
          obtain ⟨es, -, -, -, halways, -⟩ := hp
          exact halways.1

/-- Passes that write only good entries are apart, whatever each of them owes. -/
theorem apart_endProperty (hclosing : h₀.Closing) (key : String) (good : List Entry → Prop)
    (kept owes owes' : Prop) :
    (endProperty hclosing key good kept owes).invariant.Apart
      (endProperty hclosing key good kept owes').invariant := by
  refine StoredProperty.apart ?_ ?_
  · rintro es h i e hsteady ⟨hany, hkept⟩ - ⟨hkeyed, hgood, -⟩ hi
    have hmem := List.mem_of_getElem? hi
    have hstep := Errand.stepAt (hclosing.of_steady hsteady) (hkeyed e hmem) hany.isSome
    exact ⟨hany.step hstep fun _ => trivial, fun hk => (hkept hk).step hstep (hgood e hmem)⟩
  · rintro es es' h i e hsteady ⟨hany, -⟩ ⟨hkeyed', hgood', howes⟩ - ⟨hkeyed, hgood, -⟩ hi
    have hmem := List.mem_of_getElem? hi
    have hstep := Errand.stepAt (hclosing.of_steady hsteady) (hkeyed e hmem) hany.isSome
    refine ⟨hkeyed', hgood', fun ho => ?_⟩
    obtain hshows | hdue := howes ho
    · exact .inl (hshows.step hstep (hgood e hmem))
    · exact .inr hdue

end EndProperty

/-! ### What a pass still writes -/

/-- The writes that a pass still makes from a host on, if it is left alone. -/
def Pass.writesLeft (p : Pass) (h : Host Scene) : List Ingress :=
  ((p.finish (Host.answers Scene.surroundings)).run h).value.2.around.cluster.writes.drop
    h.around.cluster.writes.length

/-- Some of the writes give the Ingress with a key such entries. -/
def Wrote (key : String) (what : List Entry → Prop) (writes : List Ingress) : Prop :=
  ∃ w ∈ writes, w.metadata.key = key ∧ what w.published

/-- The writes after a step are those before it, and one more if the errand was due and is not any
longer. -/
theorem Errand.StepAt.wrote_iff {key : String} {e e' : Errand}
    {stored stored' : TextMap Ingress × List Ingress} (hstep : StepAt key e e' stored stored')
    (what : List Entry → Prop) {n : Nat} (hn : n ≤ stored.2.length) :
    Wrote key what (stored'.2.drop n)
      ↔ Wrote key what (stored.2.drop n) ∨ (e.DueAt key ∧ ¬ e'.DueAt key ∧ what e.job.wanted) := by
  cases hstep with
  | beside others hdue hcopy hwrites hothers =>
      rw [hwrites, List.drop_append_of_le_length hn]
      constructor
      · rintro ⟨w, hw, hkey, hwhat⟩
        obtain hw | hw := List.mem_append.mp hw
        · exact .inl ⟨w, hw, hkey, hwhat⟩
        · exact absurd hkey (hothers w hw)
      · rintro (⟨w, hw, hkey, hwhat⟩ | ⟨hbefore, hafter, -⟩)
        · exact ⟨w, List.mem_append_left _ hw, hkey, hwhat⟩
        · exact absurd (hdue.mpr hbefore) hafter
  | writes written hdue hdone hkey hpublished hcopy hwrites =>
      rw [hwrites, List.drop_append_of_le_length hn]
      constructor
      · rintro ⟨w, hw, hwkey, hwhat⟩
        obtain hw | hw := List.mem_append.mp hw
        · exact .inl ⟨w, hw, hwkey, hwhat⟩
        · rw [List.mem_singleton.mp hw, hpublished] at hwhat
          exact .inr ⟨hdue, hdone, hwhat⟩
      · rintro (⟨w, hw, hwkey, hwhat⟩ | ⟨-, -, hwhat⟩)
        · exact ⟨w, List.mem_append_left _ hw, hwkey, hwhat⟩
        · refine ⟨written, List.mem_append_right _ (List.mem_singleton_self _), hkey, ?_⟩
          rw [hpublished]
          exact hwhat

/-- The pass still writes such entries to the Ingress with a key if it `owes` them, and only
then. -/
def writesProperty {h₀ : Host Scene} (hclosing : h₀.Closing) (key : String)
    (what : List Entry → Prop) (owes : Prop) : StoredProperty h₀ where
  decided r := ¬ owes ∧ ∀ us, r = .ok us → Destined key (fun _ => False) False us
  always stored := Shows key (fun _ => True) stored ∧ h₀.stored.2.length ≤ stored.2.length
    ∧ (Wrote key what (stored.2.drop h₀.stored.2.length) → owes)
  errands es stored := (∀ e ∈ es, e.Keyed) ∧ (∀ e ∈ es, e.DueAt key ∧ what e.job.wanted → owes)
    ∧ (owes → Wrote key what (stored.2.drop h₀.stored.2.length)
      ∨ ∃ e ∈ es, e.DueAt key ∧ what e.job.wanted)
  begin_errands := by
    rintro us stored ⟨hnot, hus⟩ -
    obtain ⟨es, hruns, hkeyed, hgood, -⟩ := hus us rfl
    exact ⟨es, hruns, hkeyed, fun e he hdue => (hgood e he hdue.1).elim, fun ho => absurd ho hnot⟩
  step_errands := by
    rintro es h i e hsteady ⟨hany, hlength, hwrote⟩ ⟨hkeyed, hdues, howes⟩ hi
    have hmem := List.mem_of_getElem? hi
    have hhost := hclosing.of_steady hsteady
    have hstep := Errand.stepAt hhost (hkeyed e hmem) hany.isSome
    have hiff := hstep.wrote_iff what hlength
    refine ⟨⟨hany.step hstep fun _ => trivial, hlength.trans hstep.length_le, fun hw => ?_⟩,
      forall_mem_set hkeyed ((hkeyed e hmem).next hhost.keyed),
      forall_mem_set hdues fun hdue => hdues e hmem ⟨hstep.dueAt hdue.1, hdue.2⟩, fun ho => ?_⟩
    · obtain hw | ⟨hdue, -, hwhat⟩ := hiff.mp hw
      · exact hwrote hw
      · exact hdues e hmem ⟨hdue, hwhat⟩
    · obtain hw | hdue := howes ho
      · exact .inl (hiff.mpr (.inl hw))
      · -- The errand that was due has made its write now, or is still due to do so.
        obtain ⟨hdue, hwhat⟩ | hdue := exists_mem_set hi hdue
        · by_cases hafter : (e.next Scene.surroundings h).1.DueAt key
          · exact .inr ⟨_, mem_set_of_getElem? hi, hafter, hwhat⟩
          · exact .inl (hiff.mpr (.inr ⟨hdue, hafter, hwhat⟩))
        · exact .inr hdue

section WritesLeft

variable {h₀ : Host Scene} {key : String} {what : List Entry → Prop}

/-- What a pass still writes, if it is left alone. -/
theorem wrote_writesLeft_iff (hclosing : h₀.Closing) (owes : Prop) {p : Pass}
    (hrestless : p.Restless) (hp : (writesProperty hclosing key what owes).invariant.Holds p h₀) :
    Wrote key what (p.writesLeft h₀) ↔ owes := by
  -- The run to the end is one of the orders that keep the property.
  obtain ⟨order, horder⟩ := Pass.finish_follow (Host.answers Scene.surroundings) hrestless h₀
  have hend := (writesProperty hclosing key what owes).invariant.follow order (x := (p, h₀)) hp
  rw [horder] at hend
  cases hresult : ((p.finish (Host.answers Scene.surroundings)).run h₀).value.1 with
  | error e =>
      rw [hresult] at hend
      obtain ⟨-, ⟨-, -, hwrote⟩, hdecided⟩ := hend
      exact iff_of_false (fun hw => hdecided.1 (hwrote hw)) hdecided.1
  | ok outcomes =>
      rw [hresult] at hend
      obtain ⟨es, hsettled, -, -, ⟨-, -, hwrote⟩, -, -, howes⟩ := hend
      refine ⟨hwrote, fun ho => ?_⟩
      obtain hw | ⟨e, he, hdue, -⟩ := howes ho
      · exact hw
      · exact absurd hdue (Errand.not_dueAt_of_settled (hsettled e he))

theorem stored_of_closing (h : Host Scene) {copy : Ingress}
    (hcopy : h.stored.1.get? key = some copy) (owes : Prop) :
    Shows key (fun _ => True) h.stored ∧ h.stored.2.length ≤ h.stored.2.length
      ∧ (Wrote key what (h.stored.2.drop h.stored.2.length) → owes) := by
  refine ⟨⟨copy, hcopy, trivial⟩, le_rfl, fun ⟨w, hw, _⟩ => ?_⟩
  rw [List.drop_length] at hw
  cases hw

/-- Updates in flight still write such entries if one of their errands is due to do so. -/
theorem wrote_writesLeft_updating_iff (hclosing : h₀.Closing) {copy : Ingress}
    (hcopy : h₀.stored.1.get? key = some copy) {b : Batch Ask.Answer UpdateOutcome}
    {es : List Errand} (hruns : Runs b es) (hfilled : b.Filled updatePool.width)
    (haccounted : b.Accounted) (hkeyed : ∀ e ∈ es, e.Keyed) (what : List Entry → Prop) :
    Wrote key what ((Pass.updating b).writesLeft h₀)
      ↔ ∃ e ∈ es, e.DueAt key ∧ what e.job.wanted := by
  refine wrote_writesLeft_iff hclosing _ ⟨hruns.restless, hfilled⟩ ?_
  exact ⟨es, hruns, hfilled, haccounted, Host.Steady.refl h₀, stored_of_closing h₀ hcopy _, hkeyed,
    fun e he hdue => ⟨e, he, hdue⟩, .inr⟩

/-- A pass that still decides writes nothing if no update that it can decide on is due. -/
theorem not_wrote_writesLeft_deciding (hclosing : h₀.Closing) {copy : Ingress}
    (hcopy : h₀.stored.1.get? key = some copy) {d : Decision}
    (hrestless : (Pass.deciding d).Restless)
    (hd : StoredProperty.DecidesOn h₀
      (fun r => ∀ us, r = .ok us → Destined key (fun _ => False) False us) d)
    (what : List Entry → Prop) : ¬ Wrote key what ((Pass.deciding d).writesLeft h₀) := by
  refine (wrote_writesLeft_iff hclosing False hrestless ?_).mp
  exact ⟨Host.Steady.refl h₀, stored_of_closing h₀ hcopy _,
    hd.mono (fun _ hq => hq) fun _ hr => ⟨not_false, hr⟩⟩

end WritesLeft

end IngressController.Status
