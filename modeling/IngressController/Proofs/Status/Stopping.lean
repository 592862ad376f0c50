import IngressController.Proofs.Status.InFlight
import IngressController.Proofs.Status.Leading
import IngressController.Proofs.Status.RunEvents

/-!
# `IngressController.Proofs.Status.Stopping`: what the passes still do after a shutdown

Two signals end the passes of a host. The mark of the queue is looked at before a trigger is taken
and once more at the beginning of each pass. The order to end is looked at by the loop of the run,
and by each update of a pass before it does anything else. Between these looks anything can happen,
so something can still be under way when a signal is given. This module says how much.

* `muteInvariant`: a pass that has not looked at the mark makes no call once the queue is marked.
* `Bound` and `boundInvariant`: after the order to end, an update that has not looked at it ends
  without a result, and only those in flight that are past their look go on.
* `Curtailed` and `StopsShort`: the bounds of a host, in the course of all further events.
* `stopsShort_undergoAll`: they hold of every host after all events.
-/

set_option autoImplicit false

namespace IngressController.Status

/-- Whether a request is a call to the cluster. -/
def Ask.isCall : Ask → Bool
  | .call _ => true
  | _ => false

/-- Whether a unit has not looked whether it is cancelled. It waits, or it looks in its next
step. -/
def isUnchecked : Slot Ask.Answer UpdateOutcome → Bool
  | .waiting _ => true
  | .running (.ask (.cancelled _) _) => true
  | _ => false

/-! ### What is bounded -/

namespace Host

variable {κ : Type}

/-- The units of the pass of a host. -/
def units (h : Host κ) : List (Slot Ask.Answer UpdateOutcome) :=
  match h.pass with
  | some (.updating b) => b.slots
  | _ => []

/-- The pass of a host makes a call in its next step, at some position. -/
def Calls (h : Host κ) : Prop :=
  ∃ position, h.pass.any (·.asks Ask.isCall position) = true

/-- The unit at a position makes a call in its next step. -/
def UnitCalls (h : Host κ) (position : Nat) : Prop :=
  (h.units[position]?.bind unitRequest?).any Ask.isCall = true

/-- The unit at a position has not looked whether it is cancelled, if it has come into being. -/
def HasNotLooked (h : Host κ) (position : Nat) : Prop :=
  h.units[position]?.all isUnchecked = true

instance (h : Host κ) (position : Nat) : Decidable (h.UnitCalls position) :=
  inferInstanceAs (Decidable (_ = true))

instance (h : Host κ) (position : Nat) : Decidable (h.HasNotLooked position) :=
  inferInstanceAs (Decidable (_ = true))

end Host

section Bounds

variable {κ : Type} (s : Surroundings κ) (setting : Setting)

/-- What a pass under way still does, whatever happens:

- `unlooked`: a unit that has not looked whether it is cancelled makes no call and has no outcome;
- `few`: no more units than fit into the pool make calls;
- `outcomes`: the pass ends with no more outcomes than it has units that have looked. -/
structure Curtailed (h : Host κ) : Prop where
  unlooked : ∀ position, h.HasNotLooked position → ∀ es,
    ¬ (h.undergoAll s setting es).UnitCalls position
      ∧ ∀ outcome, (h.undergoAll s setting es).units[position]? ≠ some (.finished (some outcome))
  few : ∃ positions : List Nat, positions.length ≤ updatePool.width
    ∧ ∀ es position, (h.undergoAll s setting es).UnitCalls position → position ∈ positions
  outcomes : ∀ es outcomes, (h.undergoAll s setting es).pass = some (.ended (.ok outcomes)) →
    outcomes.length ≤ h.units.countP fun unit => !isUnchecked unit

/-- What a host still does after the signals to stop:

- `serial`: whatever happens, its pass stays as it is, or it makes a step, or it is put away at its
  end, or a pass begins and none is under way;
- `taken`: once the queue has been marked no trigger is taken, and no pass begins;
- `mute`: a pass that begins after the mark all the same, for whatever reason, makes no call;
- `curtailed`: a pass under way is curtailed once the passes have been told to end. -/
structure StopsShort (h : Host κ) : Prop where
  serial : ∀ e, Host.PassSteps s setting h (h.undergo s setting e)
  taken : h.queue.shuttingDown = true → ∀ es,
    (h.undergoAll s setting es).queue.pending = h.queue.pending
      ∧ (h.pass = none → (h.undergoAll s setting es).pass = none)
  mute : h.queue.shuttingDown = true → ∀ es,
    ¬ ((h.put .pass (.publishing setting)).undergoAll s setting es).Calls
  curtailed : h.passesEnd = true → h.isPassing = true → Curtailed s setting h

end Bounds

/-! ### After the mark -/

/-- A queue that has been marked says so. -/
def Ask.RepliesMarked : (q : Ask) → q.Answer → Prop
  | .shuttingDown, down => down = true
  | _, _ => True

section Mark

variable {κ : Type} {s : Surroundings κ} {setting : Setting} {h : Host κ}

/-- A decision that makes no call and no updates if the queue says that it has been marked. -/
def MuteDecision (d : Decision) : Prop :=
  d.Ensures (fun q => q.isCall = false) Ask.RepliesMarked fun r => r = .ok []

/-- The invariant of a pass that makes no call in a host whose queue is marked. -/
def muteInvariant (s : Surroundings κ) : PassInvariant s where
  deciding d h := h.queue.shuttingDown = true ∧ MuteDecision d
  making es h := h.queue.shuttingDown = true ∧ es = []
  deciding_of_alike hd halike := ⟨by rw [halike.queue]; exact hd.1, hd.2⟩
  making_of_alike hes halike := ⟨by rw [halike.queue]; exact hes.1, hes.2⟩
  step_deciding := by
    rintro d h ⟨hmarked, hd⟩ -
    refine ⟨by rw [(Host.signals_step d h).1]; exact hmarked,
      Program.Ensures.step hd h fun q hq => ?_⟩
    cases q with
    | shuttingDown => exact hmarked
    | _ => trivial
  begin_making := by
    rintro us h ⟨hmarked, hus⟩
    cases hus
    exact ⟨[], .nil, hmarked, rfl⟩
  step_making := by
    rintro es h i e ⟨-, rfl⟩ hi
    cases hi

theorem lasts_muteInvariant : (muteInvariant s).Lasts := fun hretains =>
  ⟨fun _ hd => ⟨(hretains.marked hd.1).1, hd.2⟩, fun _ hes => ⟨(hretains.marked hes.1).1, hes.2⟩⟩

/-- A pass looks at the mark before anything else, and then does nothing. -/
theorem mute_publishing (hmarked : h.queue.shuttingDown = true) :
    (muteInvariant s).Holds (.publishing setting) h := by
  refine ⟨hmarked, ?_⟩
  rw [MuteDecision, decidePass, Program.ensures_bind]
  refine ⟨rfl, ?_⟩
  rintro down (rfl : down = true)
  rfl

theorem not_asks_of_mute {p : Pass} (hp : (muteInvariant s).Holds p h) (position : Nat) :
    p.asks Ask.isCall position = false := by
  refine Pass.asks_eq_false fun q hq => ?_
  obtain ⟨next, rfl⟩ | ⟨b, rfl, hunit⟩ := Pass.request?_cases hq
  · exact hp.2.1
  · -- There are no errands, so no unit asks for anything.
    obtain ⟨es, hruns, -, -, -, rfl⟩ := hp
    obtain ⟨e, he, -⟩ := hruns.exists_ask hunit
    cases he

theorem not_calls_of_mute (hh : (muteInvariant s).HoldsIn h) : ¬ h.Calls := by
  rintro ⟨position, hcalls⟩
  obtain ⟨p, hpass, hasks⟩ := (Option.any_eq_true _ _).mp hcalls
  rw [not_asks_of_mute (hh p hpass) position] at hasks
  cases hasks

/-- A pass that begins in a host whose queue is marked makes no call, whatever happens. -/
theorem mute_undergoAll (hmarked : h.queue.shuttingDown = true) (es : List (RunEvent κ)) :
    ¬ ((h.put .pass (.publishing setting)).undergoAll s setting es).Calls := by
  have hheld : (muteInvariant s).HoldsIn (h.put .pass (.publishing setting)) := by
    intro p hp
    cases hp
    exact mute_publishing hmarked
  exact not_calls_of_mute (hheld.undergoAll lasts_muteInvariant hmarked es)

/-- Once the queue has been marked, it keeps its trigger and no pass begins. -/
theorem not_taken (hmarked : h.queue.shuttingDown = true) (es : List (RunEvent κ)) :
    (h.undergoAll s setting es).queue.pending = h.queue.pending
      ∧ (h.pass = none → (h.undergoAll s setting es).pass = none) := by
  refine (Host.undergoAll_invariant (I := fun h' => h'.queue.shuttingDown = true
    ∧ h'.queue.pending = h.queue.pending ∧ (h.pass = none → h'.pass = none)) ?_ es
    ⟨hmarked, rfl, id⟩).2
  rintro h' e ⟨hmarked', hpending, hnone⟩
  obtain ⟨hmarked'', hkept⟩ := (h'.retains_undergo s setting e).marked hmarked'
  refine ⟨hmarked'', hkept.trans hpending, fun hn => ?_⟩
  -- Of all that can happen to the pass, only its beginning would matter, and the mark forbids it.
  cases h'.passSteps_undergo s setting e with
  | stays hpass => exact hpass.trans (hnone hn)
  | begins _ hopen _ _ => exact absurd (hmarked'.symm.trans hopen) (by decide)
  | goesOn hunder _ _ _ =>
      rw [hnone hn] at hunder
      cases hunder
  | isPutAway _ hpass => exact hpass

end Mark

/-! ### After the order to end -/

/-- How far an update can be after the order to end, given its unit at the time of the order, if
there was one. -/
inductive Bound : Option (Slot Ask.Answer UpdateOutcome) → Stage → Prop
  /-- It was past its look, and goes on. -/
  | free {work : Update} (hlooked : isUnchecked (.running work) = false) (st : Stage) :
      Bound (some (.running work)) st
  /-- It has not looked yet. -/
  | unchecked {unit? : Option (Slot Ask.Answer UpdateOutcome)}
      (hunlooked : unit?.all isUnchecked = true) : Bound unit? .unchecked
  /-- It has looked since, and has been cancelled. -/
  | cancelled {unit? : Option (Slot Ask.Answer UpdateOutcome)}
      (hunlooked : unit?.all isUnchecked = true) : Bound unit? (.settled none)
  /-- It had ended before. -/
  | ended (result : Option UpdateOutcome) : Bound (some (.finished result)) (.settled result)

section Order

variable {κ : Type} {s : Surroundings κ} {setting : Setting} {h : Host κ}

/-- At the time of the order every update is as its unit says. -/
theorem bound_of_occupies {e : Errand} {unit : Slot Ask.Answer UpdateOutcome}
    (hoccupies : e.Occupies unit) : Bound (some unit) e.stage := by
  cases hoccupies with
  | waiting job => exact .unchecked rfl
  | running =>
      obtain ⟨job, st⟩ := e
      -- Only in its first stage an update looks whether it is cancelled.
      cases st with
      | unchecked => exact .unchecked rfl
      | _ => exact .free rfl _
  | finished job result => exact .ended result

/-- A step of an update keeps its bound. -/
theorem Bound.next {unit? : Option (Slot Ask.Answer UpdateOutcome)} {e : Errand}
    (hbound : Bound unit? e.stage) (htoken : e.job.token = .endOfPasses)
    (hended : h.passesEnd = true) : Bound unit? (e.next s h).1.stage := by
  obtain ⟨⟨ing, wanted, token⟩, st⟩ := e
  obtain rfl : token = .endOfPasses := htoken
  cases hbound with
  | free hlooked => exact .free hlooked _
  | unchecked hunlooked =>
      -- This is its look, and it finds the order.
      have hcancelled : ((Host.answers s (.cancelled .endOfPasses)).run h).value.1 = true := hended
      rw [Errand.next, Stage.next, if_pos hcancelled]
      exact .cancelled hunlooked
  | cancelled hunlooked => exact .cancelled hunlooked
  | ended result => exact .ended result

/-- Only an update whose unit has looked does anything or has an outcome. -/
theorem Bound.exists_looked {unit? : Option (Slot Ask.Answer UpdateOutcome)} {st : Stage}
    (hbound : Bound unit? st) (hunchecked : st ≠ .unchecked) (hsettled : st ≠ .settled none) :
    ∃ unit, unit? = some unit ∧ isUnchecked unit = false := by
  cases hbound with
  | free hlooked => exact ⟨_, rfl, hlooked⟩
  | unchecked => exact absurd rfl hunchecked
  | cancelled => exact absurd rfl hsettled
  | ended result => exact ⟨_, rfl, rfl⟩

/-- The updates of a pass have not looked at first, and the end of the passes cancels them. -/
theorem Setting.Proposes.exists_unchecked {us : List Update} (hus : setting.Proposes us) :
    ∃ es, Runs (Batch.ofWork us) es
      ∧ ∀ e ∈ es, e.job.token = .endOfPasses ∧ e.stage = .unchecked := by
  obtain ⟨entries, ingresses, rfl⟩ := hus
  refine ⟨_, runs_ofWork _ _ _ _ ingresses, fun e he => ?_⟩
  obtain ⟨ing, -, rfl⟩ := List.mem_map.mp he
  exact ⟨rfl, rfl⟩

/-- A decision on updates of a pass. -/
def Setting.Decides (setting : Setting) (d : Decision) : Prop :=
  d.Ensures (fun _ => True) (fun _ _ => True) fun r => ∀ us, r = .ok us → setting.Proposes us

/-- The invariant of all passes: the end of the passes cancels their updates. -/
def ownInvariant (s : Surroundings κ) (setting : Setting) : PassInvariant s where
  deciding d _ := setting.Decides d
  making es _ := ∀ e ∈ es, e.job.token = .endOfPasses
  deciding_of_alike hd _ := hd
  making_of_alike hes _ := hes
  step_deciding hd _ := Program.Ensures.step hd _ fun _ _ => trivial
  begin_making hd := by
    obtain ⟨es, hruns, hes⟩ := (hd _ rfl).exists_unchecked
    exact ⟨es, hruns, fun e he => (hes e he).1⟩
  step_making := by
    rintro es h i e hes hi
    have htoken : (e.next s h).1.job.token = .endOfPasses := hes e (List.mem_of_getElem? hi)
    exact forall_mem_set hes htoken

theorem lasts_ownInvariant : (ownInvariant s setting).Lasts := fun _ =>
  ⟨fun _ hd => hd, fun _ hes => hes⟩

theorem own_publishing (h : Host κ) : (ownInvariant s setting).Holds (.publishing setting) h := by
  show setting.Decides (decidePass setting)
  exact (ensures_decidePass setting).mono (fun _ _ => trivial) fun _ hr => hr

/-- The invariant of a pass after the order to end, given its units at the time of the order. -/
def boundInvariant (s : Surroundings κ) (setting : Setting)
    (units : List (Slot Ask.Answer UpdateOutcome)) : PassInvariant s where
  deciding d h := h.passesEnd = true ∧ units = [] ∧ setting.Decides d
  making es h := h.passesEnd = true ∧ ∀ (i : Nat) (e : Errand), es[i]? = some e →
    e.job.token = .endOfPasses ∧ Bound units[i]? e.stage
  deciding_of_alike hd halike := ⟨by rw [halike.passesEnd]; exact hd.1, hd.2⟩
  making_of_alike hes halike := ⟨by rw [halike.passesEnd]; exact hes.1, hes.2⟩
  step_deciding := by
    rintro d h ⟨hended, hunits, hd⟩ -
    refine ⟨?_, hunits, Program.Ensures.step hd h fun _ _ => trivial⟩
    exact (Host.signals_step d h).2.trans hended
  begin_making := by
    rintro us h ⟨hended, rfl, hus⟩
    -- There were no units yet, so every update can still be stopped.
    obtain ⟨es, hruns, hes⟩ := Setting.Proposes.exists_unchecked (hus us rfl)
    refine ⟨es, hruns, hended, fun i e hi => ?_⟩
    obtain ⟨htoken, hstage⟩ := hes e (List.mem_of_getElem? hi)
    rw [hstage]
    exact ⟨htoken, .unchecked rfl⟩
  step_making := by
    rintro es h i e ⟨hended, hes⟩ hi
    refine ⟨(Host.signals_next e h).2.trans hended, fun j e' hj => ?_⟩
    -- Only the errand that makes the step is another one than before.
    rw [List.getElem?_set] at hj
    split at hj
    · next hij =>
        subst hij
        obtain ⟨htoken, hbound⟩ := hes i e hi
        split at hj
        · cases hj
          exact ⟨htoken, hbound.next htoken hended⟩
        · cases hj
    · exact hes j e' hj

variable {units : List (Slot Ask.Answer UpdateOutcome)}

theorem lasts_boundInvariant : (boundInvariant s setting units).Lasts := fun hretains =>
  ⟨fun _ hd => ⟨hretains.ended hd.1, hd.2⟩, fun _ hes => ⟨hretains.ended hes.1, hes.2⟩⟩

/-- At the time of the order every pass under way is bound by its units. -/
theorem holdsIn_boundInvariant (hown : (ownInvariant s setting).HoldsIn h)
    (hended : h.passesEnd = true) (hpassing : h.isPassing = true) :
    (boundInvariant s setting h.units).HoldsIn h := by
  intro p hp
  have hheld := hown p hp
  cases p with
  | deciding d =>
      refine ⟨hended, ?_, hheld⟩
      rw [Host.units, hp]
  | updating b =>
      obtain ⟨es, hruns, hfilled, haccounted, htokens⟩ := hheld
      refine ⟨es, hruns, hfilled, haccounted, hended, fun i e hi => ?_⟩
      obtain ⟨unit, hunit, hoccupies⟩ := exists_getElem?_of_forall₂ hruns hi
      rw [Host.units, hp]
      exact ⟨htokens e (List.mem_of_getElem? hi), hunit ▸ bound_of_occupies hoccupies⟩
  | ended result =>
      rw [Host.isPassing, hp] at hpassing
      cases hpassing

/-- The errands of a pass that is bound and has units. -/
theorem exists_bound (hh : (boundInvariant s setting units).HoldsIn h) (hunits : h.units ≠ []) :
    ∃ b es, b.slots = h.units ∧ Runs b es
      ∧ ∀ (i : Nat) (e : Errand), es[i]? = some e → Bound units[i]? e.stage := by
  rw [Host.units] at hunits ⊢
  split at hunits
  · next b hpass =>
      obtain ⟨es, hruns, -, -, -, hes⟩ := hh _ hpass
      exact ⟨b, es, rfl, hruns, fun i e hi => (hes i e hi).2⟩
  · exact absurd rfl hunits

/-- A unit that makes a call was in flight at the time of the order, and past its look. -/
theorem exists_free_of_unitCalls (hh : (boundInvariant s setting units).HoldsIn h)
    {position : Nat} (hcalls : h.UnitCalls position) :
    ∃ work, units[position]? = some (.running work) ∧ isUnchecked (.running work) = false := by
  obtain ⟨q, hq, hcall⟩ := (Option.any_eq_true _ _).mp hcalls
  obtain ⟨b, es, hslots, hruns, hes⟩ := exists_bound hh fun hnone => by
    rw [hnone] at hq
    cases hq
  rw [← hslots] at hq
  obtain ⟨e, he, hrequest⟩ := hruns.exists_ask hq
  have hbound := hes position e he
  -- The next request of the errand is a call, so it is at one of the two stages that make one.
  generalize e.stage = st at hbound hrequest
  generalize units[position]? = unit? at hbound ⊢
  cases hbound with
  | free hlooked => exact ⟨_, rfl, hlooked⟩
  | unchecked =>
      cases hrequest
      cases hcall
  | cancelled => cases hrequest
  | ended result => cases hrequest

/-- A unit with an outcome has looked before the order. -/
theorem exists_looked_of_finished (hh : (boundInvariant s setting units).HoldsIn h)
    {position : Nat} {outcome : UpdateOutcome}
    (hunit : h.units[position]? = some (.finished (some outcome))) :
    ∃ unit, units[position]? = some unit ∧ isUnchecked unit = false := by
  obtain ⟨b, es, hslots, hruns, hes⟩ := exists_bound hh fun hnone => by
    rw [hnone] at hunit
    cases hunit
  rw [← hslots] at hunit
  obtain ⟨e, he, hoccupies⟩ := hruns.exists_errand hunit
  have hbound := hes position e he
  cases hoccupies with
  | finished job result => exact hbound.exists_looked (by simp) (by simp)

/-- A list has no more elements of a kind than another one has of its own, if there is one of these
at the position of each. -/
theorem countP_le_countP {α β : Type} {kind : α → Bool} {kind' : β → Bool} {l : List α}
    {l' : List β} (h : ∀ (i : Nat) (a : α), l[i]? = some a → kind a = true →
      l'[i]?.any kind' = true) : l.countP kind ≤ l'.countP kind' := by
  induction l generalizing l' with
  | nil => exact Nat.zero_le _
  | cons a l ih =>
      cases l' with
      | nil =>
          refine Nat.le_of_eq (List.countP_eq_zero.mpr fun x hx hkind => ?_)
          obtain ⟨i, hi⟩ := List.mem_iff_getElem?.mp hx
          exact absurd (h i x hi hkind) (by simp)
      | cons b l' =>
          have hrest : l.countP kind ≤ l'.countP kind' := ih fun i x hi => h (i + 1) x hi
          have hfirst : kind a = true → kind' b = true := h 0 a rfl
          rw [List.countP_cons, List.countP_cons]
          split
          · next hkind =>
              rw [if_pos (hfirst hkind)]
              exact Nat.succ_le_succ hrest
          · exact Nat.le_trans hrest (Nat.le_add_right ..)

/-- A pass that is bound ends with no more outcomes than units had looked. -/
theorem length_outcomes_le (hh : (boundInvariant s setting units).HoldsIn h)
    {outcomes : List UpdateOutcome} (hpass : h.pass = some (.ended (.ok outcomes))) :
    outcomes.length ≤ units.countP fun unit => !isUnchecked unit := by
  obtain ⟨es, hsettled, hperm, -, hes⟩ := hh _ hpass
  rw [hperm.length_eq, List.length_filterMap_eq_countP]
  -- Each result belongs to an errand that has one, and its unit had looked.
  refine countP_le_countP fun i e hi hresult => ?_
  obtain ⟨result, hstage⟩ := hsettled e (List.mem_of_getElem? hi)
  rw [Errand.result?, hstage] at hresult
  have hbound := (hes i e hi).2
  rw [hstage] at hbound
  obtain ⟨unit, hunit, hlooked⟩ := hbound.exists_looked (by simp) fun hnone => by
    cases hnone
    cases hresult
  rw [hunit, Option.any_some, hlooked]
  rfl

end Order

/-! ### Every host after all events -/

section Hosts

variable {κ : Type} {s : Surroundings κ} {setting : Setting} {h : Host κ}

/-- What holds of a host at all times:

- `ordered`: the passes are not told to end before the queue has been marked;
- `own`: the updates of its pass can be cancelled by the end of the passes;
- `within`: no more of them are in flight than fit into the pool. -/
structure InOrder (s : Surroundings κ) (setting : Setting) (h : Host κ) : Prop where
  ordered : h.passesEnd = true → h.queue.shuttingDown = true
  own : (ownInvariant s setting).HoldsIn h
  within : ∀ b, h.pass = some (.updating b) → b.inFlight ≤ updatePool.width

/-- A step of a pass keeps to the width of the pool. -/
theorem inFlight_advance_le {p : Pass} (hp : (ownInvariant s setting).Holds p h)
    (hwithin : ∀ b, p = .updating b → b.inFlight ≤ updatePool.width) (position : Nat)
    {b' : Batch Ask.Answer UpdateOutcome}
    (hb' : ((p.advance (Host.answers s) position).run h).value.1 = .updating b') :
    b'.inFlight ≤ updatePool.width := by
  generalize hx : ((p.advance (Host.answers s) position).run h).value = x at hb'
  have hsteps := Pass.advance_steps (Host.answers s) position h p
  rw [hx] at hsteps
  cases hsteps with
  | fails e => cases hb'
  | begins us =>
      cases hb'
      refine Batch.inFlight_fill_le (Nat.le_trans (Nat.le_of_eq ?_) (Nat.zero_le _))
      -- No unit is in flight before the first ones start.
      refine List.countP_eq_zero.mpr fun unit hunit => ?_
      obtain ⟨work, -, rfl⟩ := List.mem_map.mp hunit
      exact Bool.false_ne_true
  | decides d hd => cases hb'
  | turns b hend =>
      -- A turn of a batch that is filled starts a unit only in the place of another one.
      obtain ⟨es, -, hfilled, -⟩ := hp
      cases hb'
      exact Batch.inFlight_turn_le hfilled (hwithin b rfl) _ _ _
  | ends b hend => cases hb'
  | stays result => cases hb'

theorem InOrder.undergo (hh : InOrder s setting h) (e : RunEvent κ) :
    InOrder s setting (h.undergo s setting e) where
  ordered hended := by
    have hretains := h.retains_undergo s setting e
    obtain hended' | hmarked := hretains.ordered hended
    · exact (hretains.marked (hh.ordered hended')).1
    · exact (hretains.marked hmarked).1
  own := hh.own.undergo lasts_ownInvariant e fun _ => own_publishing _
  within b hb := by
    cases h.passSteps_undergo s setting e with
    | stays hpass => exact hh.within b (hpass.symm.trans hb)
    | begins _ _ _ hpass =>
        rw [hpass] at hb
        cases hb
    | goesOn hunder hp position hhost =>
        rw [hhost] at hb
        refine inFlight_advance_le (hh.own _ hunder) ?_ position (Option.some.inj hb)
        rintro b' rfl
        exact hh.within b' hunder
    | isPutAway _ hpass =>
        rw [hpass] at hb
        cases hb

/-- A host that has just been made is in order, and stays so. -/
theorem inOrder_undergoAll (s : Surroundings κ) (setting : Setting) (around : κ)
    (leadership : Leadership) (es : List (RunEvent κ)) :
    InOrder s setting (({ around, leadership } : Host κ).undergoAll s setting es) := by
  refine Host.undergoAll_invariant (fun e hh => hh.undergo e) es
    { ordered := fun hended => ?_, own := fun p hp => ?_, within := fun b hb => ?_ }
  · cases hended
  · cases hp
  · cases hb

/-- A pass under way is curtailed once the passes have been told to end. -/
theorem InOrder.curtailed (hh : InOrder s setting h) (hended : h.passesEnd = true)
    (hpassing : h.isPassing = true) : Curtailed s setting h := by
  have hlater : ∀ es, (boundInvariant s setting h.units).HoldsIn (h.undergoAll s setting es) :=
    (holdsIn_boundInvariant hh.own hended hpassing).undergoAll lasts_boundInvariant
      (hh.ordered hended)
  refine { unlooked := fun position hunlooked es => ⟨fun hcalls => ?_, fun outcome hunit => ?_⟩,
           few := ?_, outcomes := fun es outcomes hpass => length_outcomes_le (hlater es) hpass }
  · obtain ⟨work, hwork, hlooked⟩ := exists_free_of_unitCalls (hlater es) hcalls
    rw [Host.HasNotLooked, hwork, Option.all_some, hlooked] at hunlooked
    cases hunlooked
  · obtain ⟨unit, hfound, hlooked⟩ := exists_looked_of_finished (hlater es) hunit
    rw [Host.HasNotLooked, hfound, Option.all_some, hlooked] at hunlooked
    cases hunlooked
  · -- Only the units in flight at the time of the order are left to make calls.
    obtain ⟨p, hpass, -⟩ := (Option.any_eq_true _ _).mp hpassing
    cases p with
    | updating b =>
        refine ⟨b.running, ?_, fun es position hcalls => Batch.mem_running.mpr ?_⟩
        · rw [Batch.length_running]
          exact hh.within b hpass
        · obtain ⟨work, hwork, -⟩ := exists_free_of_unitCalls (hlater es) hcalls
          rw [Host.units, hpass] at hwork
          show b.slots[position]?.any Slot.isRunning = true
          rw [hwork]
          rfl
    | deciding d | ended result =>
        refine ⟨[], Nat.zero_le _, fun es position hcalls => ?_⟩
        obtain ⟨work, hwork, -⟩ := exists_free_of_unitCalls (hlater es) hcalls
        rw [Host.units, hpass] at hwork
        cases hwork

/-- The leader of a Service with two Ingresses that both need its address. A trigger has made a
pass, of which one update has looked whether it is cancelled when the host begins to shut down. -/
def interruptedHost : Host Scene :=
  ({ around :=
      { (serviceHost ["ingress-0"] [] []).around with
        watched := [ingressShowing "a" [], ingressShowing "b" []] }
     leadership := Leadership.holding "ingress-0" } : Host Scene).undergoAll
    Scene.surroundings serviceSetting
      ([.begins 0, .triggers, .selects .trigger 0] ++ List.replicate 6 (.steps 0)
        ++ [.marks, .cancels])

end Hosts

end IngressController.Status
