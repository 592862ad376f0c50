import IngressController.Proofs.Pool
import IngressController.Status.Host

/-!
# `IngressController.Proofs.Status.Update`: the stages of an update

What an update has left to do is one of a few programs: `Stage.program` gives the one for each
stage, and `Stage.next` tells which stage follows, given how the surroundings answer. An update that
takes turns with others is then a job at a stage, an `Errand`, and a batch of updates is a list of
errands.

* `Stage.step_program`: a step of the program of a stage leads to the program of the next stage.
* `Batch.Runs.turn`: a turn of a batch of updates makes one errand go on, or changes nothing.
* `Batch.Runs.results`: the results of a batch that has ended are those of its errands.
* `restless_update`: no update rests.
-/

set_option autoImplicit false

namespace IngressController.Status

open Object

/-! ### Stages -/

/-- What an update is about. -/
structure Job where
  ing : Ingress
  /-- The ordered entries that the Ingress should show. -/
  wanted : List Entry
  /-- What can cancel the update before it begins. -/
  token : Token

/-- How far an update is. -/
inductive Stage where
  /-- It has not looked whether it is cancelled. -/
  | unchecked
  /-- The watched copy shows what it should. -/
  | unchanged
  /-- The Ingress is to be read again. -/
  | fetching
  | unreadable (failure : Cluster.Failure)
  | fetched (latest : Ingress)
  /-- The status is to be written. -/
  | publishing (latest : Ingress)
  | rejected (failure : Cluster.Failure)
  | concluding (outcome : UpdateOutcome)
  | settled (result : Option UpdateOutcome)

/-- Counts an outcome and ends with it. -/
def conclude (outcome : UpdateOutcome) : Update := do
  Program.measure (.statusUpdate outcome.label)
  return some outcome

/-- Writes the status of an Ingress that has been read again, and ends. -/
def publishAndConclude (job : Job) (latest : Ingress) : Update := do
  match ← call (.publish (latest.publish job.wanted)) with
  | .ok () => conclude .updated
  | .error failure =>
    Program.log .warn ("error updating ingress rule: " ++ failure.message)
    conclude .failed

namespace Stage

/-- What is left to do at a stage. -/
def program (job : Job) : Stage → Update
  | unchecked => do
    if ← Program.request (Ask.cancelled job.token) then return none
    let outcome ← bringUpToDate job.ing job.wanted
    conclude outcome
  | unchanged => do
    Program.log .debug ("skipping update of Ingress " ++ job.ing.metadata.key ++ " (no change)")
    conclude .unchanged
  | fetching => do
    let outcome ← write job.ing job.wanted
    conclude outcome
  | unreadable failure => do
    Program.log .warn ("unexpected error searching Ingress " ++ job.ing.metadata.key ++ ": " ++
      failure.message)
    conclude .failed
  | fetched latest => do
    Program.log .info ("updating Ingress " ++ job.ing.metadata.key ++ " status to " ++
      showEntries job.wanted)
    publishAndConclude job latest
  | publishing latest => publishAndConclude job latest
  | rejected failure => do
    Program.log .warn ("error updating ingress rule: " ++ failure.message)
    conclude .failed
  | concluding outcome => conclude outcome
  | settled result => .done result

variable {κ : Type}

/-- The stage after a step in the surroundings of a host, and the host after it. -/
def next (s : Surroundings κ) (job : Job) (h : Host κ) : Stage → Stage × Host κ
  | unchecked =>
    if ((Host.answers s (.cancelled job.token)).run h).value.1 then (settled none, h)
    else if sameEntries job.wanted (sortEntries job.ing.published) then (unchanged, h)
    else (fetching, h)
  | unchanged => (concluding .unchanged, h)
  | fetching =>
    match ((Host.answers s (.call (.getIngress job.ing.metadata.namespaceText
      job.ing.metadata.nameText))).run h).value with
    | (.ok latest, h) => (fetched latest, h)
    | (.error failure, h) => (unreadable failure, h)
  | unreadable _ => (concluding .failed, h)
  | fetched latest => (publishing latest, h)
  | publishing latest =>
    match ((Host.answers s (.call (.publish (latest.publish job.wanted)))).run h).value with
    | (.ok (), h) => (concluding .updated, h)
    | (.error failure, h) => (rejected failure, h)
  | rejected _ => (concluding .failed, h)
  | concluding outcome => (settled (some outcome), h)
  | settled result => (settled result, h)

/-- A step of the program of a stage leads to the program of the next stage. -/
theorem step_program (s : Surroundings κ) (job : Job) (st : Stage) (h : Host κ) :
    (((st.program job).step (Host.answers s)).run h).value
      = ((st.next s job h).1.program job, (st.next s job h).2) := by
  cases st with
  | unchecked =>
      -- To look at a token changes nothing, so only the answer matters.
      have hkeep : ((Host.answers s (.cancelled job.token)).run h).value.2 = h := by
        obtain ⟨ing, wanted, token⟩ := job
        cases token <;> rfl
      show ((Program.step _ (Program.ask (Ask.cancelled job.token) _)).run h).value = _
      rw [Program.value_step_ask, next, hkeep]
      generalize ((Host.answers s (.cancelled job.token)).run h).value.1 = cancelled
      cases cancelled with
      | true => rfl
      | false =>
          show (Program.bind (bringUpToDate job.ing job.wanted) conclude, h) = _
          rw [bringUpToDate, if_neg Bool.false_ne_true]
          split
          · rfl
          · rfl
  | unchanged => rfl
  | fetching =>
      show ((Program.step _ (Program.ask (Ask.call _) _)).run h).value = _
      rw [Program.value_step_ask, next]
      generalize hr : ((Host.answers s (.call _)).run h).value = r
      obtain ⟨outcome, h'⟩ := r
      cases outcome with
      | ok latest =>
          -- The note and the request are the same, and so is what follows each answer.
          refine Prod.ext (congrArg (Program.note _) (congrArg (Program.ask _) ?_)) rfl
          funext answer
          cases answer <;> rfl
      | error failure => rfl
  | unreadable failure => rfl
  | fetched latest => rfl
  | publishing latest =>
      show ((Program.step _ (Program.ask (Ask.call _) _)).run h).value = _
      rw [Program.value_step_ask, next]
      generalize hr : ((Host.answers s (.call _)).run h).value = r
      obtain ⟨outcome, h'⟩ := r
      cases outcome with
      | ok latest => rfl
      | error failure => rfl
  | rejected failure => rfl
  | concluding outcome => rfl
  | settled result => rfl

end Stage

/-- No update rests at any stage. -/
theorem Stage.restless_program (job : Job) (st : Stage) : (st.program job).Restless := by
  have hpublish : ∀ latest, (publishAndConclude job latest).Restless := by
    intro latest answer
    cases answer <;> trivial
  have hwrite : (Program.bind (write job.ing job.wanted) conclude).Restless := by
    intro answer
    cases answer with
    | error failure => trivial
    | ok latest =>
        intro answer
        cases answer <;> trivial
  cases st with
  | unchecked =>
      intro cancelled
      cases cancelled with
      | true => trivial
      | false =>
          show (Program.bind (bringUpToDate job.ing job.wanted) conclude).Restless
          rw [bringUpToDate]
          split
          · trivial
          · exact hwrite
  | unchanged => trivial
  | fetching => exact hwrite
  | unreadable failure => trivial
  | fetched latest => exact hpublish latest
  | publishing latest => exact hpublish latest
  | rejected failure => trivial
  | concluding outcome => trivial
  | settled result => trivial

/-- A stage with nothing left to do is the last one. -/
theorem Stage.eq_settled_of_program {job : Job} {st : Stage} {result : Option UpdateOutcome}
    (h : st.program job = .done result) : st = settled result := by
  cases st <;> cases h
  rfl

/-! ### Errands -/

/-- An update among others: what it is about and how far it is. -/
structure Errand where
  job : Job
  stage : Stage

namespace Errand

variable {κ : Type}

/-- The errand after a step in the surroundings of a host, and the host after it. -/
def next (s : Surroundings κ) (h : Host κ) (e : Errand) : Errand × Host κ :=
  ({ e with stage := (e.stage.next s e.job h).1 }, (e.stage.next s e.job h).2)

/-- The result of an errand that is over. -/
def result? (e : Errand) : Option UpdateOutcome :=
  match e.stage with
  | .settled result => result
  | _ => none

/-- An errand takes a place in a batch: it waits, it is in flight or it has ended. -/
inductive Occupies : Errand → Slot Ask.Answer UpdateOutcome → Prop
  | waiting (job : Job) : Occupies ⟨job, .unchecked⟩ (.waiting (Stage.unchecked.program job))
  | running (e : Errand) : Occupies e (.running (e.stage.program e.job))
  | finished (job : Job) (result : Option UpdateOutcome) :
      Occupies ⟨job, .settled result⟩ (.finished result)

/-- An errand keeps its place when it starts. -/
theorem Occupies.starts {e : Errand} {slot slot' : Slot Ask.Answer UpdateOutcome}
    (h : e.Occupies slot) (hstarts : slot.Starts slot') : e.Occupies slot' := by
  cases hstarts with
  | stays => exact h
  | starts work =>
      cases h
      exact .running _

/-- What an errand in flight has left to do is the program of its stage. -/
theorem Occupies.of_running {e : Errand} {work : Update} (h : e.Occupies (.running work)) :
    work = e.stage.program e.job := by
  cases h
  rfl

end Errand

/-- An errand that goes on is about the same as before. -/
theorem Errand.map_job_set {es : List Errand} {i : Nat} {e e' : Errand} (hi : es[i]? = some e)
    (hjob : e'.job = e.job) : (es.set i e').map Errand.job = es.map Errand.job := by
  obtain ⟨hlt, hget⟩ := List.getElem?_eq_some_iff.mp hi
  have hself := List.set_getElem_self hlt
  rw [List.map_set, hjob, ← hget, ← List.map_set, hself]

/-- The units of a batch are these errands, each in its place. -/
def Runs (b : Batch Ask.Answer UpdateOutcome) (es : List Errand) : Prop :=
  List.Forall₂ Errand.Occupies es b.slots

namespace Runs

variable {κ : Type} {b : Batch Ask.Answer UpdateOutcome} {es : List Errand}

/-- Errands that start are the same errands. -/
theorem fill (hb : Runs b es) (width : Nat) : Runs (b.fill width).1 es := by
  have hstarts := Batch.forall₂_fill width b
  have hes : List.Forall₂ Errand.Occupies es b.slots := hb
  show List.Forall₂ Errand.Occupies es (b.fill width).1.slots
  generalize (b.fill width).1.slots = slots' at hstarts ⊢
  generalize b.slots = slots at hstarts hes
  clear hb
  induction hes generalizing slots' with
  | nil =>
      cases hstarts
      exact .nil
  | cons he _ ih =>
      cases hstarts with
      | cons hslot hslots => exact .cons (he.starts hslot) (ih _ hslots)

/-- The errand in the place of a unit. -/
theorem exists_errand (hb : Runs b es) {i : Nat} {slot : Slot Ask.Answer UpdateOutcome}
    (hi : b.slots[i]? = some slot) : ∃ e, es[i]? = some e ∧ e.Occupies slot := by
  obtain ⟨e, he, hslot⟩ := exists_getElem?_of_forall₂ (List.Forall₂.flip hb) hi
  exact ⟨e, he, hslot⟩

/-- One errand and its place are exchanged for others. -/
theorem set (hb : List.Forall₂ Errand.Occupies es b.slots) (i : Nat) {e : Errand}
    {slot : Slot Ask.Answer UpdateOutcome} (h : e.Occupies slot) :
    List.Forall₂ Errand.Occupies (es.set i e) (b.slots.set i slot) := by
  generalize b.slots = slots at hb ⊢
  induction hb generalizing i with
  | nil => exact .nil
  | cons he hes ih =>
      cases i with
      | zero => exact .cons h hes
      | succ i => exact .cons he (ih i)

/-- A turn makes the errand of a unit in flight go on, or the unit has nothing left to do and it
changes nothing for any of them. -/
theorem turn_unit (hb : Runs b es) {width : Nat} (hfilled : b.Filled width) (s : Surroundings κ)
    (i : Nat) (h : Host κ) :
    ((∀ work, b.slots[i]? = some (.running work) → ∃ result, work = .done result)
        ∧ Runs ((b.turn (Host.answers s) width i).run h).value.1 es
        ∧ ((b.turn (Host.answers s) width i).run h).value.2 = h)
      ∨ ∃ e, es[i]? = some e ∧ b.slots[i]? = some (.running (e.stage.program e.job))
        ∧ Runs ((b.turn (Host.answers s) width i).run h).value.1 (es.set i (e.next s h).1)
        ∧ ((b.turn (Host.answers s) width i).run h).value.2 = (e.next s h).2 := by
  obtain ⟨hidle, hvalue⟩ | ⟨result, hi, hvalue⟩ | ⟨work, hi, -, hvalue⟩ :=
    Batch.turn_cases hfilled (Host.answers s) i h
  · rw [hvalue]
    refine .inl ⟨fun work hwork => ?_, hb, rfl⟩
    rw [hwork] at hidle
    cases hidle
  · rw [hvalue]
    -- The unit ends in its place. Its errand has been over before, and stays as it is.
    obtain ⟨⟨job, st⟩, he, hslot⟩ := hb.exists_errand hi
    obtain rfl := Stage.eq_settled_of_program hslot.of_running.symm
    refine .inl ⟨fun work hwork => ?_, Runs.fill ?_ width, rfl⟩
    · rw [hi] at hwork
      cases hwork
      exact ⟨result, rfl⟩
    · have hset := set hb i (Errand.Occupies.finished job result)
      obtain ⟨hlt, hget⟩ := List.getElem?_eq_some_iff.mp he
      rwa [← hget, List.set_getElem_self] at hset
  · rw [hvalue]
    obtain ⟨e, he, hslot⟩ := hb.exists_errand hi
    obtain rfl := hslot.of_running
    refine .inr ⟨e, he, hi, ?_, ?_⟩
    · rw [Stage.step_program]
      exact set hb i (.running (e.next s h).1)
    · rw [Stage.step_program]
      rfl

/-- A turn makes the errand at its position go on, or changes nothing for any of them. -/
theorem turn (hb : Runs b es) {width : Nat} (hfilled : b.Filled width) (s : Surroundings κ)
    (i : Nat) (h : Host κ) :
    (Runs ((b.turn (Host.answers s) width i).run h).value.1 es
        ∧ ((b.turn (Host.answers s) width i).run h).value.2 = h)
      ∨ ∃ e, es[i]? = some e
        ∧ Runs ((b.turn (Host.answers s) width i).run h).value.1 (es.set i (e.next s h).1)
        ∧ ((b.turn (Host.answers s) width i).run h).value.2 = (e.next s h).2 :=
  (hb.turn_unit hfilled s i h).imp And.right fun ⟨e, he, _, hnext⟩ => ⟨e, he, hnext⟩

/-- No errand of a batch rests. -/
theorem restless (hb : Runs b es) : b.Restless := by
  intro slot hslot work hwork
  obtain ⟨i, hi⟩ := List.mem_iff_getElem?.mp hslot
  obtain ⟨e, -, hoccupies⟩ := hb.exists_errand hi
  cases hoccupies with
  | waiting job =>
      obtain hwork | hwork := hwork <;> cases hwork
      exact Stage.restless_program job .unchecked
  | running =>
      obtain hwork | hwork := hwork <;> cases hwork
      exact Stage.restless_program ..
  | finished job result => obtain hwork | hwork := hwork <;> cases hwork

/-- In a batch that has ended every errand is over. -/
theorem exists_result (hb : Runs b es) (hend : b.isFinished = true) :
    ∀ e ∈ es, ∃ result, e.stage = .settled result := by
  intro e he
  obtain ⟨i, hi⟩ := List.mem_iff_getElem?.mp he
  obtain ⟨slot, hslot, hoccupies⟩ := exists_getElem?_of_forall₂ hb hi
  have hfinished := List.all_eq_true.mp hend slot (List.mem_of_getElem? hslot)
  cases hoccupies with
  | waiting job => exact absurd hfinished (by simp [Slot.isFinished])
  | running => exact absurd hfinished (by simp [Slot.isFinished])
  | finished job result => exact ⟨result, rfl⟩

/-- The results of a batch that has ended are those of its errands. -/
theorem results (hb : Runs b es) (hend : b.isFinished = true) (hresults : b.Accounted) :
    b.results.Perm (es.filterMap Errand.result?) := by
  refine hresults.trans (List.Perm.of_eq ?_)
  have hall : ∀ slot ∈ b.slots, slot.isFinished = true := List.all_eq_true.mp hend
  have hes : List.Forall₂ Errand.Occupies es b.slots := hb
  generalize b.slots = slots at hall hes
  clear hb hend hresults
  -- Place by place: an errand in a unit that has ended is over, with the result of the unit.
  induction hes with
  | nil => rfl
  | @cons e slot es slots hoccupies _ ih =>
      have hsame : slot.result? = e.result? := by
        have hfinished := hall slot (List.mem_cons_self ..)
        cases hoccupies with
        | waiting job => exact absurd hfinished (by simp [Slot.isFinished])
        | running => exact absurd hfinished (by simp [Slot.isFinished])
        | finished job result => rfl
      rw [List.filterMap_cons, List.filterMap_cons, hsame,
        ih fun slot hslot => hall slot (List.mem_cons_of_mem _ hslot)]

end Runs

/-! ### The updates of a batch -/

section Updates

variable (config : Config) (custom : CustomEntries) (token : Token) (entries : List Entry)

/-- The entries that an Ingress should show. -/
def wanted (custom : CustomEntries) (entries : List Entry) (ing : Ingress) : List Entry :=
  (custom ing).getD entries

/-- The errand of an Ingress whose update has not begun. -/
def errand (ing : Ingress) : Errand where
  job := { ing, wanted := sortEntries (wanted custom entries ing), token }
  stage := .unchecked

/-- The errands of all managed Ingresses of a list. -/
def errands (ingresses : List Ingress) : List Errand :=
  (ingresses.filter config.manages).map (errand custom token entries)

variable {config custom token entries}

/-- Errands that have gone on are about managed Ingresses, with their entries and the token. -/
theorem exists_managed_of_jobs {ingresses : List Ingress} {es : List Errand}
    (hjobs : es.map Errand.job = (errands config custom token entries ingresses).map Errand.job)
    {e : Errand} (he : e ∈ es) :
    ∃ ing ∈ ingresses.filter config.manages, e.job = (errand custom token entries ing).job := by
  have hjob : e.job ∈ es.map Errand.job := List.mem_map_of_mem he
  rw [hjobs, errands, List.map_map] at hjob
  obtain ⟨ing, hing, heq⟩ := List.mem_map.mp hjob
  exact ⟨ing, hing, heq.symm⟩

/-- Such errands are about the managed Ingresses in their order. -/
theorem map_ing_of_jobs {ingresses : List Ingress} {es : List Errand}
    (hjobs : es.map Errand.job = (errands config custom token entries ingresses).map Errand.job) :
    es.map (·.job.ing) = ingresses.filter config.manages := by
  have hings := congrArg (List.map Job.ing) hjobs
  rw [errands, List.map_map, List.map_map, List.map_map] at hings
  exact hings.trans (List.map_id _)

/-- Such errands at different positions are about Ingresses with different keys. -/
theorem key_ne_of_jobs {ingresses : List Ingress} {es : List Errand}
    (hjobs : es.map Errand.job = (errands config custom token entries ingresses).map Errand.job)
    (hdistinct : (ingresses.map (·.metadata.key)).Nodup) {i j : Nat} {e e' : Errand}
    (hi : es[i]? = some e) (hj : es[j]? = some e') (hne : i ≠ j) :
    e'.job.ing.metadata.key ≠ e.job.ing.metadata.key := by
  -- The errands are about some of the Ingresses, in their order.
  have hnodup : (es.map fun e => e.job.ing.metadata.key).Nodup := by
    have hsub := (List.filter_sublist (p := config.manages) (l := ingresses)).map (·.metadata.key)
    rw [← map_ing_of_jobs hjobs, List.map_map] at hsub
    exact hdistinct.sublist hsub
  intro heq
  have hlt : i < (es.map fun e => e.job.ing.metadata.key).length := by
    rw [List.length_map]
    exact (List.getElem?_eq_some_iff.mp hi).1
  refine hne ((List.getElem?_inj hlt hnodup).mp ?_)
  rw [List.getElem?_map, List.getElem?_map, hi, hj, Option.map_some, Option.map_some, heq]

variable (config custom token entries)

/-- No update rests. -/
theorem restless_update (ing : Ingress) : (update custom token entries ing).Restless :=
  Stage.restless_program (errand custom token entries ing).job .unchecked

/-- A batch of updates that begins runs their errands. -/
theorem runs_ofWork (ingresses : List Ingress) :
    Runs (Batch.ofWork ((ingresses.filter config.manages).map (update custom token entries)))
      (errands config custom token entries ingresses) := by
  show List.Forall₂ Errand.Occupies ((ingresses.filter config.manages).map _)
    (((ingresses.filter config.manages).map _).map Slot.waiting)
  induction ingresses.filter config.manages with
  | nil => exact .nil
  | cons ing ings ih => exact .cons (.waiting _) ih

/-- A pass that makes the updates that a program decides on. -/
def Pass.ofUpdates (us : Task (List Update)) : Pass :=
  .deciding do return .ok (← us)

end Updates

end IngressController.Status
