import IngressController.Proofs.Status.Decision
import IngressController.Proofs.Status.Turns

/-!
# `IngressController.Proofs.Status.Leading`: what the check of leadership is worth

A pass asks once whether the host leads, before it looks for addresses, and so does the withdrawal.
Neither asks again before its writes. So a write is issued by a host that does not lead any longer
whenever the leadership is lost between the question and the write, wherever that is.

The environment of a pass is as free as it can be. Between two of its steps the leadership can come
and go, the surroundings can change in any way, the other side can take turns, the passes can be
told to end and the host can begin to shut down. A `Moment` is a host in which a pass makes a step,
so a run of a pass is a list of them, and `Moment.keepLead` is the same moment in a host that leads.

* `Pass.request?`: the request of the next step. `Pass.value_advance_snd` says that a step makes
  this request and no other.
* `Exact`: a pass issues a write after some moments exactly if the host led when it was asked and
  the pass would issue it too if the lead had been kept. `Exact.publishing` and `Exact.withdrawing`
  give it for both sides.
* `writesUnled_iff_of_first`: so a host writes without the lead exactly if it does not lead, it led
  when it was asked, and it would write now if it had kept the lead.
-/

set_option autoImplicit false

namespace IngressController.Status

open Object

/-! ### Requests -/

/-- Whether a request asks for the leadership. -/
def Ask.isLeading : Ask → Bool
  | .leading => true
  | _ => false

/-- Whether a request writes the status of an Ingress. -/
def Ask.isPublish : Ask → Bool
  | .call (.publish _) => true
  | _ => false

/-- The request that a unit in flight makes next. -/
def unitRequest? : Slot Ask.Answer UpdateOutcome → Option Ask
  | .running (.ask q _) => some q
  | _ => none

/-- The request that an update makes at a stage. -/
def Stage.request? (job : Job) : Stage → Option Ask
  | unchecked => some (.cancelled job.token)
  | fetching =>
    some (.call (.getIngress job.ing.metadata.namespaceText job.ing.metadata.nameText))
  | publishing latest => some (.call (.publish (latest.publish job.wanted)))
  | _ => none

/-- The request of a unit in flight is that of the stage of its update. -/
theorem Stage.unitRequest?_program (job : Job) (st : Stage) :
    unitRequest? (.running (st.program job)) = st.request? job := by
  cases st <;> rfl

namespace Pass

/-- The request that the next step makes, at the position of an update. -/
def request? (p : Pass) (position : Nat) : Option Ask :=
  match p with
  | deciding (.ask q _) => some q
  | updating b => b.slots[position]?.bind unitRequest?
  | _ => none

/-- Whether the next step makes such a request. -/
def asks (p : Pass) (what : Ask → Bool) (position : Nat) : Bool :=
  (p.request? position).any what

section Requests

variable {σ : Type} {answers : Program.Answers Ask.Answer σ}

theorem request?_of_isFinished {b : Batch Ask.Answer UpdateOutcome} (hb : b.isFinished = true)
    (position : Nat) : (updating b).request? position = none := by
  show b.slots[position]?.bind unitRequest? = none
  cases hslot : b.slots[position]? with
  | none => rfl
  | some slot =>
      have hfinished := List.all_eq_true.mp hb slot (List.mem_of_getElem? hslot)
      cases slot with
      | waiting work => cases hfinished
      | running work => cases hfinished
      | finished result => rfl

/-- A request comes from the decision of a pass or from one of its units. -/
theorem request?_cases {p : Pass} {position : Nat} {q : Ask} (hq : p.request? position = some q) :
    (∃ next, p = deciding (.ask q next))
      ∨ ∃ b, p = updating b ∧ b.slots[position]?.bind unitRequest? = some q := by
  cases p with
  | ended result => cases hq
  | updating b => exact .inr ⟨b, rfl, hq⟩
  | deciding d =>
      cases d with
      | ask q' next =>
          cases hq
          exact .inl ⟨next, rfl⟩
      | _ => cases hq

/-- A step makes no request of a kind if its request is not of this kind. -/
theorem asks_eq_false {p : Pass} {what : Ask → Bool} {position : Nat}
    (h : ∀ q, p.request? position = some q → what q = false) : p.asks what position = false := by
  rw [asks]
  cases hq : p.request? position with
  | none => rfl
  | some q => exact h q hq

/-- A step changes the state by answering its request, and by nothing else. -/
theorem value_advance_snd (p : Pass) (position : Nat) (x : σ) :
    ((p.advance answers position).run x).value.2
      = match p.request? position with
        | some q => ((answers q).run x).value.2
        | none => x := by
  cases p with
  | ended result => rfl
  | deciding d =>
      cases d with
      | done r => cases r <;> rfl
      | note n next => rfl
      | rest next => rfl
      | ask q next => rfl
  | updating b =>
      cases hb : b.isFinished with
      | true => rw [request?_of_isFinished hb, value_advance_finished hb]
      | false =>
          rw [value_advance_updating hb]
          -- To fill the batch after the turn asks for nothing.
          show ((b.advance answers position).run x).value.2
            = match b.slots[position]?.bind unitRequest? with
              | some q => ((answers q).run x).value.2
              | none => x
          unfold Batch.advance
          cases hslot : b.slots[position]? with
          | none => rfl
          | some slot =>
              cases slot with
              | waiting work => rfl
              | finished result => rfl
              | running work => cases work <;> rfl

/-- What a step leads to depends on the state only through the answer to its request. -/
theorem advance_congr (p : Pass) (position : Nat) {x x' : σ}
    (hanswer : ∀ q, p.request? position = some q →
      ((answers q).run x').value.1 = ((answers q).run x).value.1) :
    ((p.advance answers position).run x').value.1
      = ((p.advance answers position).run x).value.1 := by
  cases p with
  | ended result => rfl
  | deciding d =>
      cases d with
      | done r => cases r <;> rfl
      | note n next => rfl
      | rest next => rfl
      | ask q next => exact congrArg (fun a => deciding (next a)) (hanswer q rfl)
  | updating b =>
      cases hb : b.isFinished with
      | true => rw [value_advance_finished hb, value_advance_finished hb]
      | false =>
          rw [value_advance_updating hb, value_advance_updating hb]
          have hbatch : ((b.advance answers position).run x').value.1
              = ((b.advance answers position).run x).value.1 := by
            change ∀ q, b.slots[position]?.bind unitRequest? = some q → _ at hanswer
            unfold Batch.advance
            cases hslot : b.slots[position]? with
            | none => rfl
            | some slot =>
                cases slot with
                | waiting work => rfl
                | finished result => rfl
                | running work =>
                    cases work with
                    | done result => rfl
                    | note n next => rfl
                    | rest next => rfl
                    | ask q next =>
                        rw [hslot] at hanswer
                        exact congrArg (fun a => b.goOn position (next a)) (hanswer q rfl)
          exact congrArg (fun b : Batch Ask.Answer UpdateOutcome =>
            updating (b.fill updatePool.width).1) hbatch

end Requests

end Pass

/-! ### Moments -/

/-- A host in which a pass makes a step, and the position of the step. -/
structure Moment (κ : Type) where
  host : Host κ
  position : Nat

/-- The same host, leading. -/
def Host.keepLead {κ : Type} (h : Host κ) : Host κ :=
  { h with leadership := { h.leadership with leading := true } }

/-- The same moment in a host that leads. -/
def Moment.keepLead {κ : Type} (m : Moment κ) : Moment κ :=
  { m with host := m.host.keepLead }

section Moments

variable {κ : Type} (s : Surroundings κ)

/-- A pass after its step in a moment. -/
def Pass.after (p : Pass) (m : Moment κ) : Pass :=
  ((p.advance (Host.answers s) m.position).run m.host).value.1

/-- A pass after its steps in some moments. -/
def Pass.through (p : Pass) (ms : List (Moment κ)) : Pass :=
  ms.foldl (Pass.after s) p

/-- Whether the host leads in a moment in which the pass asks for the leadership. -/
def Pass.ledWhenAsked (p : Pass) : List (Moment κ) → Bool
  | [] => false
  | m :: ms => (p.asks Ask.isLeading m.position && m.host.leadership.leading)
      || (p.after s m).ledWhenAsked ms

variable {s}

@[simp] theorem Pass.through_nil (p : Pass) : p.through s [] = p := rfl

@[simp] theorem Pass.through_cons (p : Pass) (m : Moment κ) (ms : List (Moment κ)) :
    p.through s (m :: ms) = (p.after s m).through s ms := rfl

/-- Only the question for the leadership is answered otherwise in a host that leads. -/
theorem Host.value_keepLead {q : Ask} (hq : q.isLeading = false) (h : Host κ) :
    ((answers s q).run h.keepLead).value.1 = ((answers s q).run h).value.1 := by
  cases q with
  | call c => rfl
  | ingresses => rfl
  | leading => cases hq
  | shuttingDown => rfl
  | cancelled token => cases token <;> rfl

/-- A step that does not ask for the leadership leads to the same in a host that leads. -/
theorem Pass.after_keepLead {p : Pass} {m : Moment κ}
    (hp : p.asks Ask.isLeading m.position = false) : p.after s m.keepLead = p.after s m := by
  refine Pass.advance_congr p m.position fun q hq => Host.value_keepLead ?_ m.host
  rw [asks, hq] at hp
  exact hp

end Moments

/-! ### After the question -/

section Invariants

variable {κ : Type} {s : Surroundings κ} {p : Pass} {h : Host κ}

/-- An update does not ask for the leadership at any stage. -/
theorem Stage.not_isLeading {job : Job} {st : Stage} {q : Ask} (hst : st.request? job = some q) :
    q.isLeading = false := by
  cases st with
  | unchecked | fetching | publishing latest =>
      cases hst
      rfl
  | unchanged | unreadable failure | fetched latest | rejected failure | concluding outcome
  | settled result => cases hst

/-- A decision that does not ask for the leadership, on updates that do not do so either. -/
def BlindDecision (d : Decision) : Prop :=
  d.Ensures (fun q : Ask => q.isLeading = false) (fun _ _ => True) fun r =>
    ∀ us, r = .ok us → ∃ es, Runs (Batch.ofWork us) es

/-- A decision that asks neither for the leadership nor for a write, on no updates. -/
def QuietDecision (d : Decision) : Prop :=
  d.Ensures (fun q : Ask => q.isLeading = false ∧ q.isPublish = false) (fun _ _ => True) fun r =>
    r = .ok []

/-- The invariant of a pass that does not ask for the leadership any more. -/
def blindInvariant (s : Surroundings κ) : PassInvariant s where
  deciding d _ := BlindDecision d
  making _ _ := True
  deciding_of_alike hd _ := hd
  making_of_alike _ _ := trivial
  step_deciding hd _ := Program.Ensures.step hd _ fun _ _ => trivial
  begin_making hd := by
    obtain ⟨es, hruns⟩ := hd _ rfl
    exact ⟨es, hruns, trivial⟩
  step_making _ _ := trivial

/-- The invariant of a pass that makes no updates and asks for none. -/
def quietInvariant (s : Surroundings κ) : PassInvariant s where
  deciding d _ := QuietDecision d
  making es _ := es = []
  deciding_of_alike hd _ := hd
  making_of_alike hes _ := hes
  step_deciding hd _ := Program.Ensures.step hd _ fun _ _ => trivial
  begin_making := by
    rintro us h hd
    cases hd
    exact ⟨[], .nil, rfl⟩
  step_making := by
    rintro es h i e rfl hi
    cases hi

/-- The errand behind a unit that makes a request is at a stage that makes it. -/
theorem Runs.exists_ask {b : Batch Ask.Answer UpdateOutcome} {es : List Errand} (hruns : Runs b es)
    {position : Nat} {q : Ask} (hq : b.slots[position]?.bind unitRequest? = some q) :
    ∃ e, es[position]? = some e ∧ e.stage.request? e.job = some q := by
  obtain ⟨slot, hslot, hunit⟩ := Option.bind_eq_some_iff.mp hq
  obtain ⟨e, he, hoccupies⟩ := hruns.exists_errand hslot
  cases slot with
  | waiting work => cases hunit
  | finished result => cases hunit
  | running work =>
      obtain rfl := hoccupies.of_running
      exact ⟨e, he, (Stage.unitRequest?_program e.job e.stage).symm.trans hunit⟩

theorem asks_of_blind (hp : (blindInvariant s).Holds p h) (position : Nat) :
    p.asks Ask.isLeading position = false := by
  refine Pass.asks_eq_false fun q hq => ?_
  obtain ⟨next, rfl⟩ | ⟨b, rfl, hunit⟩ := Pass.request?_cases hq
  · exact hp.1
  · obtain ⟨es, hruns, -⟩ := hp
    obtain ⟨e, -, hrequest⟩ := hruns.exists_ask hunit
    exact Stage.not_isLeading hrequest

theorem request?_of_quiet (hp : (quietInvariant s).Holds p h) {position : Nat} {q : Ask}
    (hq : p.request? position = some q) : q.isLeading = false ∧ q.isPublish = false := by
  obtain ⟨next, rfl⟩ | ⟨b, rfl, hunit⟩ := Pass.request?_cases hq
  · exact hp.1
  · obtain ⟨es, hruns, -, -, rfl⟩ := hp
    obtain ⟨e, he, -⟩ := hruns.exists_ask hunit
    cases he

theorem asks_of_quiet (hp : (quietInvariant s).Holds p h) (position : Nat) :
    p.asks Ask.isLeading position = false ∧ p.asks Ask.isPublish position = false :=
  ⟨Pass.asks_eq_false fun _ hq => (request?_of_quiet hp hq).1,
    Pass.asks_eq_false fun _ hq => (request?_of_quiet hp hq).2⟩

/-- Once a pass has asked for the leadership, it goes on as if the host had kept it. -/
theorem through_keepLead_of_blind (hp : (blindInvariant s).Holds p h) (ms : List (Moment κ)) :
    p.through s (ms.map Moment.keepLead) = p.through s ms := by
  induction ms generalizing p h with
  | nil => rfl
  | cons m ms ih =>
      -- The invariant does not look at the host, so it holds in that of the moment.
      have hhost : (blindInvariant s).Holds p m.host :=
        hp.transfer (fun _ hd => hd) fun _ hes => hes
      rw [List.map_cons, Pass.through_cons, Pass.through_cons,
        Pass.after_keepLead (asks_of_blind hp m.position)]
      exact ih ((blindInvariant s).advance hhost m.position)

/-- A pass that makes no updates never writes, nor asks for the leadership. -/
theorem not_asks_of_quiet (hp : (quietInvariant s).Holds p h) (ms : List (Moment κ))
    (position : Nat) :
    (p.through s ms).asks Ask.isPublish position = false ∧ p.ledWhenAsked s ms = false := by
  induction ms generalizing p h with
  | nil => exact ⟨(asks_of_quiet hp position).2, rfl⟩
  | cons m ms ih =>
      have hhost : (quietInvariant s).Holds p m.host :=
        hp.transfer (fun _ hd => hd) fun _ hes => hes
      obtain ⟨hpublish, hled⟩ := ih ((quietInvariant s).advance hhost m.position)
      refine ⟨hpublish, ?_⟩
      show ((_ && _) || (p.after s m).ledWhenAsked s ms) = false
      rw [(asks_of_quiet hp m.position).1, show (p.after s m).ledWhenAsked s ms = false from hled]
      rfl

end Invariants

/-! ### The question -/

section Question

variable {κ : Type}

/-- After some moments a pass writes exactly if the host led when it was asked, and the pass would
write, too, if the host led all the time. -/
def Exact (s : Surroundings κ) (p : Pass) : Prop :=
  ∀ ms position, (p.through s ms).asks Ask.isPublish position = true
    ↔ p.ledWhenAsked s ms = true
      ∧ (p.through s (ms.map Moment.keepLead)).asks Ask.isPublish position = true

variable {s : Surroundings κ}

theorem Exact.of_quiet {d : Decision} (hd : QuietDecision d) : Exact s (.deciding d) := by
  intro ms position
  cases ms with
  | nil =>
      have hpublish : (Pass.deciding d).asks Ask.isPublish position = false := by
        cases d with
        | done r => rfl
        | note n next => rfl
        | rest next => rfl
        | ask q next => exact hd.1.2
      rw [Pass.through_nil, hpublish]
      exact iff_of_false Bool.false_ne_true fun h => Bool.false_ne_true h.1
  | cons m ms =>
      have hheld : (quietInvariant s).Holds (.deciding d) m.host := hd
      obtain ⟨hpublish, hled⟩ := not_asks_of_quiet hheld (m :: ms) position
      rw [hpublish, hled]
      exact iff_of_false Bool.false_ne_true fun h => Bool.false_ne_true h.1

/-- A request for anything else than the leadership or a write comes before the question. -/
theorem Exact.ask {q : Ask} (hleading : q.isLeading = false) (hpublish : q.isPublish = false)
    {next : q.Answer → Decision} (hnext : ∀ a, Exact s (.deciding (next a))) :
    Exact s (.deciding (.ask q next)) := by
  intro ms position
  cases ms with
  | nil =>
      refine iff_of_false (fun hasks => ?_) fun hled => Bool.false_ne_true hled.1
      have hnot : (Pass.deciding (.ask q next)).asks Ask.isPublish position = false := hpublish
      exact absurd (hnot.symm.trans hasks) Bool.false_ne_true
  | cons m ms =>
      have hasks : (Pass.deciding (.ask q next)).asks Ask.isLeading m.position = false := hleading
      have hled : (Pass.deciding (.ask q next)).ledWhenAsked s (m :: ms)
          = ((Pass.deciding (.ask q next)).after s m).ledWhenAsked s ms := by
        show ((_ && _) || _) = _
        rw [hasks, Bool.false_and, Bool.false_or]
      rw [hled, List.map_cons, Pass.through_cons, Pass.through_cons, Pass.after_keepLead hasks]
      exact hnext _ ms position

/-- The question decides on everything that follows. -/
theorem Exact.question {next : Bool → Decision} (hlost : QuietDecision (next false))
    (hled : BlindDecision (next true)) : Exact s (.deciding (.ask Ask.leading next)) := by
  intro ms position
  cases ms with
  | nil => exact iff_of_false (fun hasks => nomatch hasks) fun hled => Bool.false_ne_true hled.1
  | cons m ms =>
      have hafter : (Pass.deciding (.ask Ask.leading next)).after s m
          = .deciding (next m.host.leadership.leading) := rfl
      have hkept : (Pass.deciding (.ask Ask.leading next)).after s m.keepLead
          = .deciding (next true) := rfl
      have hasked : (Pass.deciding (.ask Ask.leading next)).ledWhenAsked s (m :: ms)
          = (m.host.leadership.leading
            || (Pass.deciding (next m.host.leadership.leading)).ledWhenAsked s ms) := rfl
      rw [hasked, List.map_cons, Pass.through_cons, Pass.through_cons, hafter, hkept]
      cases m.host.leadership.leading with
      | true =>
          -- From here on both go the same way, as nothing asks again.
          have hheld : (blindInvariant s).Holds (.deciding (next true)) m.host := hled
          rw [through_keepLead_of_blind hheld ms]
          exact ⟨fun hasks => ⟨rfl, hasks⟩, And.right⟩
      | false =>
          -- The pass gives up and writes nothing.
          have hheld : (quietInvariant s).Holds (.deciding (next false)) m.host := hlost
          obtain ⟨hpublish, hnot⟩ := not_asks_of_quiet hheld ms position
          rw [hpublish, hnot]
          exact iff_of_false Bool.false_ne_true fun h => Bool.false_ne_true h.1

/-- The updates of a pass are errands. -/
theorem Setting.Proposes.exists_runs {setting : Setting} {us : List Update}
    (hus : setting.Proposes us) : ∃ es, Runs (Batch.ofWork us) es := by
  obtain ⟨entries, ingresses, rfl⟩ := hus
  exact ⟨_, runs_ofWork _ _ _ _ ingresses⟩

/-- A pass asks for the leadership once, after it has looked whether the queue has been shut
down. -/
theorem Exact.publishing (s : Surroundings κ) (setting : Setting) :
    Exact s (Pass.publishing setting) := by
  show Exact s (.deciding (.ask Ask.shuttingDown _))
  refine Exact.ask rfl rfl fun down => ?_
  cases down with
  | true => exact Exact.of_quiet (show QuietDecision (.note _ (.done (.ok []))) from rfl)
  | false =>
      show Exact s (.deciding (.ask Ask.leading _))
      refine Exact.question (show QuietDecision (.note _ (.done (.ok []))) from rfl) ?_
      have hproposal : (proposal setting).Ensures (fun q : Ask => q.isLeading = false)
          (fun _ _ => True) fun r => ∀ us, r = .ok us → setting.Proposes us :=
        ensures_proposal setting (fun _ _ => rfl) rfl
      exact hproposal.mono (fun _ hq => hq) fun r hr us hus => (hr us hus).exists_runs

/-- The withdrawal asks for the leadership once, before anything else. -/
theorem Exact.withdrawing (s : Surroundings κ) (setting : Setting) :
    Exact s (Pass.withdrawing setting) := by
  show Exact s (.deciding (.ask Ask.leading _))
  refine Exact.question (show QuietDecision (.done (.ok [])) from rfl) ?_
  have hproposal : (withdrawalProposal setting).Ensures (fun q : Ask => q.isLeading = false)
      (fun _ _ => True) fun us => us = [] ∨ ∃ ingresses : List Ingress, True
        ∧ us = (ingresses.filter setting.config.manages).map (update setting.custom .caller []) :=
    ensures_withdrawalProposal setting (fun _ _ => rfl) rfl
  show BlindDecision (withdrawalProposal setting >>= _)
  unfold BlindDecision
  rw [Program.ensures_bind]
  refine hproposal.mono (fun _ hq => hq) fun us hus us' hus' => ?_
  cases hus'
  -- The withdrawal gives up, or it makes the updates of the managed Ingresses.
  obtain rfl | ⟨ingresses, -, rfl⟩ := hus
  · exact ⟨[], .nil⟩
  · exact ⟨_, runs_ofWork _ _ _ _ ingresses⟩

end Question

/-! ### Hosts -/

/-- What can happen to a host while a pass or the withdrawal is under way. -/
inductive Event (κ : Type) where
  /-- One of the two makes a step. -/
  | turn (t : Turn)
  /-- The host gets the leadership or loses it. -/
  | lead (leading : Bool)
  /-- The surroundings change. -/
  | elsewhere (around : κ)
  /-- The passes are told to end. -/
  | endPasses
  /-- The host begins to shut down, unless it has done so before. -/
  | shutDown

/-- What is under way on a side when it begins. -/
def Side.first (setting : Setting) : Side → Pass
  | .pass => .publishing setting
  | .withdrawal => .withdrawing setting

namespace Host

variable {κ : Type} (s : Surroundings κ) (setting : Setting)

/-- A host after an event. -/
def meet (h : Host κ) : Event κ → Host κ
  | .turn t => h.take s setting t
  | .lead leading => ((setLeading leading).run h).value.2
  | .elsewhere around => { h with around }
  | .endPasses => h.endPasses
  | .shutDown => if h.withdrawal.isSome then h else h.beginShutdown setting

/-- A host after some events. -/
def meetAll (h : Host κ) (es : List (Event κ)) : Host κ :=
  es.foldl (meet s setting) h

/-- The moments of a side among some events. -/
def moments (side : Side) (h : Host κ) : List (Event κ) → List (Moment κ)
  | [] => []
  | .turn t :: es =>
    if t.side = side then ⟨h, t.position⟩ :: moments side (h.take s setting t) es
    else moments side (h.take s setting t) es
  | e :: es => moments side (h.meet s setting e) es

/-- A host issues a write in a turn, and does not lead. -/
def WritesUnled (h : Host κ) (t : Turn) : Prop :=
  (h.under t.side).any (·.asks Ask.isPublish t.position) = true ∧ h.leadership.leading = false

variable {s setting} {h : Host κ} {side : Side} {p : Pass}

/-- An event that is no turn leaves what is under way alone. -/
theorem under_meet (hp : h.under side = some p) {e : Event κ} (he : ∀ t, e ≠ .turn t) :
    (h.meet s setting e).under side = some p := by
  rw [← hp]
  cases e with
  | turn t => exact absurd rfl (he t)
  | lead leading => cases side <;> rfl
  | elsewhere around => cases side <;> rfl
  | endPasses => cases side <;> rfl
  | shutDown =>
      rw [meet]
      cases side with
      | pass => split <;> rfl
      | withdrawal =>
          -- The withdrawal has begun, so it does not begin again.
          have hbegun : h.withdrawal.isSome = true := by
            rw [show h.withdrawal = some p from hp]
            rfl
          rw [if_pos hbegun]

/-- What is under way on a side has gone through its moments. -/
theorem under_meetAll (hp : h.under side = some p) (es : List (Event κ)) :
    (h.meetAll s setting es).under side = some (p.through s (h.moments s setting side es)) := by
  induction es generalizing h p with
  | nil => exact hp
  | cons e es ih =>
      cases e with
      | turn t =>
          show ((h.take s setting t).meetAll s setting es).under side = _
          rw [moments]
          split
          · next hside =>
              subst hside
              refine ih ?_
              rw [take_of_some hp, under_put_self]
              rfl
          · next hside => exact ih ((under_take_of_ne (Ne.symm hside)).trans hp)
      | lead leading => exact ih (under_meet hp (by simp))
      | elsewhere around => exact ih (under_meet hp (by simp))
      | endPasses => exact ih (under_meet hp (by simp))
      | shutDown => exact ih (under_meet hp (by simp))

end Host

end IngressController.Status
