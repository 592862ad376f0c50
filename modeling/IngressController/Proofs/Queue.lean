import IngressController.Queue
import Mathlib.Data.List.Basic

/-!
# `IngressController.Proofs.Queue`: no trigger is lost and none is made up

A queue is used by consumers that come and go. Most of them are polled once and dropped when they
have to wait, as by a run that begins anew at each tick of its timer; at most one at a time is kept
and polled again later. A queue in use is the queue with this consumer, if there is one, and what
happens to it is a list of events: an act such as to poll a consumer leaves an event with the
answer.

The flags of a queue are determined by its events, whatever has become of notifications:

* `Explained`: every event is the one that the events before it make it. A poll tells whether the
  queue has been shut down, and else whether a trigger has been accepted that has not been taken
  since. `Upheld.perform` shows that every act goes on like this.
* `Upheld.parked`: a consumer that faces a pending trigger, or a queue that has been shut down, is
  not parked any longer. So a notification can be used up too early, kept too long or given to
  another consumer, and yet none is missed.
* `delivers_of_acts`: what follows for the triggers, for every list of acts.
-/

set_option autoImplicit false

namespace IngressController.Queue

/-! ### What the operations do to the flags -/

section Operations

variable (q : Queue) (consumer : Option Consumer)

@[simp] theorem pending_notify : (q.notify consumer).1.pending = q.pending := by
  unfold notify
  split <;> rfl

@[simp] theorem shuttingDown_notify :
    (q.notify consumer).1.shuttingDown = q.shuttingDown := by
  unfold notify
  split <;> rfl

/-- Nobody is parked after a notification. -/
theorem notify_ne_parked : (q.notify consumer).2 ≠ some .parked := by
  unfold notify
  split
  · simp
  · assumption

/-- A trigger is accepted unless the queue has been shut down. Consumers are notified of the first
one only. -/
theorem enqueue_eq : q.enqueue consumer
    = if q.shuttingDown then (false, q, consumer)
      else if q.pending then (true, q, consumer)
      else (true, ({ q with pending := true } : Queue).notify consumer) := rfl

@[simp] theorem pending_drop (c : Consumer) : (q.drop c).pending = q.pending := by
  cases c <;> rfl

@[simp] theorem shuttingDown_drop (c : Consumer) : (q.drop c).shuttingDown = q.shuttingDown := by
  cases c <;> rfl

/-- What a consumer finds that looks for a trigger. -/
def found : Option Bool :=
  if q.shuttingDown then some false
  else if q.pending then some true
  else none

theorem found_eq_none_iff {q : Queue} :
    q.found = none ↔ q.pending = false ∧ q.shuttingDown = false := by
  obtain ⟨pending, shuttingDown, permit⟩ := q
  cases shuttingDown <;> cases pending <;> simp [found]

/-- A consumer that has not to wait for a notification gets what it finds. -/
theorem poll_fst {c : Consumer} (hc : c = .parked → q.found = none) :
    (q.poll c).1 = q.found := by
  obtain ⟨pending, shuttingDown, permit⟩ := q
  cases c with
  | parked => exact (hc rfl).symm
  | fresh => cases shuttingDown <;> cases pending <;> rfl
  | woken => cases shuttingDown <;> cases pending <;> rfl

/-- To poll a consumer takes the trigger that it gets, and changes nothing else about the flags. -/
theorem flags_poll {c : Consumer} (hc : c = .parked → q.found = none) :
    (q.poll c).2.1.shuttingDown = q.shuttingDown
      ∧ (q.poll c).2.1.pending = (q.pending && q.found != some true) := by
  cases c with
  | parked =>
      have hfound := hc rfl
      exact ⟨rfl, by simp [poll, hfound]⟩
  | fresh =>
      obtain ⟨pending, shuttingDown, permit⟩ := q
      cases shuttingDown <;> cases pending <;> exact ⟨rfl, rfl⟩
  | woken =>
      obtain ⟨pending, shuttingDown, permit⟩ := q
      cases shuttingDown <;> cases pending <;> exact ⟨rfl, rfl⟩

end Operations

/-! ### A queue in use -/

/-- A queue and the consumer that is kept, if there is one. -/
structure InUse where
  queue : Queue := {}
  kept : Option Consumer := none

/-- What can be done with a queue in use. -/
inductive Act where
  /-- A trigger is added. -/
  | enqueue
  | shutdown
  /-- A fresh consumer is polled, and dropped if it has to wait. -/
  | pollFresh
  /-- A fresh consumer is kept; the one that was kept before is dropped. -/
  | keep
  | pollKept
  | dropKept
  deriving DecidableEq

/-- What has happened to a queue. -/
inductive Event where
  /-- A trigger was added, unless it was refused. -/
  | enqueued (accepted : Bool)
  | shutDown
  /-- A consumer was polled; without a result it has to wait. -/
  | polled (result : Option Bool)
  deriving DecidableEq

namespace InUse

/-- The queue after the kept consumer has been dropped. -/
def dropKept (u : InUse) : InUse where
  queue := match u.kept with
    | some c => u.queue.drop c
    | none => u.queue

/-- The events of an act, and the queue after it. A consumer with a result is gone. -/
def perform (u : InUse) : Act → List Event × InUse
  | .enqueue =>
    let (accepted, queue, kept) := u.queue.enqueue u.kept
    ([.enqueued accepted], { queue, kept })
  | .shutdown =>
    let (queue, kept) := u.queue.shutdown u.kept
    ([.shutDown], { queue, kept })
  | .pollFresh =>
    let (result, queue, c) := u.queue.poll .fresh
    ([.polled result], { u with queue := if result.isSome then queue else queue.drop c })
  | .keep => ([], { u.dropKept with kept := some .fresh })
  | .pollKept =>
    match u.kept with
    | some c =>
      let (result, queue, c) := u.queue.poll c
      ([.polled result], { queue, kept := if result.isSome then none else some c })
    | none => ([], u)
  | .dropKept => ([], u.dropKept)

/-- The events of some acts, and the queue after them. -/
def performAll (u : InUse) : List Act → List Event × InUse
  | [] => ([], u)
  | a :: acts =>
    let (events, u) := u.perform a
    let (more, u) := u.performAll acts
    (events ++ more, u)

end InUse

/-! ### What the events tell -/

/-- Whether a trigger is left after an event, if one was before. -/
def Event.leaves (before : Bool) : Event → Bool
  | .enqueued true => true
  | .polled (some true) => false
  | _ => before

/-- Whether a trigger has been accepted and has not been taken since. -/
def triggered (events : List Event) : Bool :=
  events.foldl Event.leaves false

/-- An event is the one that the events before it make it. -/
def Event.Expected (before : List Event) : Event → Prop
  | .enqueued accepted => accepted = decide (.shutDown ∉ before)
  | .shutDown => True
  | .polled result =>
    result = if .shutDown ∈ before then some false
      else if triggered before then some true
      else none

/-- Every event is the one that the events before it make it. -/
inductive Explained : List Event → Prop where
  | nil : Explained []
  | snoc {before : List Event} {e : Event} (h : Explained before) (he : e.Expected before) :
      Explained (before ++ [e])

/-- Each event among explained ones is the one that those before it make it. -/
theorem Explained.expected {before after : List Event} {e : Event}
    (h : Explained (before ++ e :: after)) : e.Expected before := by
  generalize hall : before ++ e :: after = events at h
  induction h generalizing after with
  | nil => simp at hall
  | @snoc events last _ hlast ih =>
      -- The event is the last one, or one of those before.
      obtain rfl | ⟨after', x, rfl⟩ := List.eq_nil_or_concat after
      · obtain ⟨rfl, rfl⟩ : before = events ∧ e = last := by simpa using hall
        exact hlast
      · refine @ih after' ?_
        rw [List.concat_eq_append, ← List.cons_append, ← List.append_assoc] at hall
        exact (List.append_inj' hall rfl).1

/-- Of two events among explained ones, the later one is the one that all before it make it. -/
theorem Explained.expected_later {before between after : List Event} {first e : Event}
    (h : Explained (before ++ first :: (between ++ e :: after))) :
    e.Expected (before ++ first :: between) := by
  refine @Explained.expected _ after _ ?_
  rwa [List.append_assoc, List.cons_append]

section Triggers

variable {events : List Event}

/-- A trigger that has been accepted is left as long as none is taken. -/
theorem foldl_leaves_true (h : .polled (some true) ∉ events) :
    events.foldl Event.leaves true = true := by
  induction events with
  | nil => rfl
  | cons e events ih =>
      rw [List.mem_cons, not_or] at h
      have hleaves : Event.leaves true e = true := by
        unfold Event.leaves
        split
        · rfl
        · exact absurd rfl h.1
        · rfl
      rw [List.foldl_cons, hleaves]
      exact ih h.2

/-- No trigger is left where none has been accepted. -/
theorem foldl_leaves_false (h : .enqueued true ∉ events) :
    events.foldl Event.leaves false = false := by
  induction events with
  | nil => rfl
  | cons e events ih =>
      rw [List.mem_cons, not_or] at h
      have hleaves : Event.leaves false e = false := by
        unfold Event.leaves
        split
        · exact absurd rfl h.1
        · rfl
        · rfl
      rw [List.foldl_cons, hleaves]
      exact ih h.2

/-- A trigger is left after one has been accepted and none has been taken. -/
theorem triggered_of_accepted (before : List Event) (h : .polled (some true) ∉ events) :
    triggered (before ++ .enqueued true :: events) = true := by
  rw [triggered, List.foldl_append, List.foldl_cons]
  exact foldl_leaves_true h

/-- After one has been taken, a trigger is left only if one has been accepted since. -/
theorem accepted_of_triggered (before : List Event)
    (h : triggered (before ++ .polled (some true) :: events) = true) :
    .enqueued true ∈ events := by
  rw [triggered, List.foldl_append, List.foldl_cons] at h
  by_contra hnone
  have hleft : events.foldl Event.leaves false = false := foldl_leaves_false hnone
  exact Bool.false_ne_true (hleft.symm.trans h)

/-- After one has been taken, a trigger is left if one has been accepted since and none taken. -/
theorem triggered_of_taken (before : List Event) (h : .polled (some true) ∉ events) :
    triggered (before ++ .polled (some true) :: events) = true ↔ .enqueued true ∈ events := by
  refine ⟨accepted_of_triggered before, fun haccepted => ?_⟩
  obtain ⟨some, more, rfl⟩ := List.append_of_mem haccepted
  rw [← List.cons_append, ← List.append_assoc]
  exact triggered_of_accepted _ fun htaken => h (by simp [htaken])

end Triggers

namespace Explained

variable {before between after : List Event}

/-- A trigger is accepted exactly if the queue has not been shut down before. -/
theorem accepted_iff {accepted : Bool} (h : Explained (before ++ .enqueued accepted :: after)) :
    accepted = true ↔ .shutDown ∉ before := by
  have hexpected := h.expected
  rw [Event.Expected] at hexpected
  rw [hexpected, decide_eq_true_iff]

/-- The first poll after a trigger has been accepted takes it, unless the queue has been shut down
in between. -/
theorem result_of_accepted {result : Option Bool}
    (h : Explained (before ++ .enqueued true :: (between ++ .polled result :: after)))
    (hnone : ∀ r, .polled r ∉ between) : result = some (decide (.shutDown ∉ between)) := by
  have hopen : .shutDown ∉ before := h.accepted_iff.mp rfl
  have hresult := h.expected_later
  rw [Event.Expected, triggered_of_accepted before (hnone _)] at hresult
  by_cases hdown : .shutDown ∈ between <;> simp [hresult, hopen, hdown]

/-- Between two triggers that are taken, one has been accepted. -/
theorem accepted_between
    (h : Explained (before ++ .polled (some true) :: (between ++ .polled (some true) :: after))) :
    .enqueued true ∈ between := by
  have hresult := h.expected_later
  rw [Event.Expected] at hresult
  split at hresult
  · cases hresult
  · split at hresult
    · next htriggered => exact accepted_of_triggered before htriggered
    · cases hresult

/-- After a trigger has been taken, a poll takes the next one if any has been accepted since. -/
theorem result_of_taken {result : Option Bool}
    (h : Explained (before ++ .polled (some true) :: (between ++ .polled result :: after)))
    (htaken : .polled (some true) ∉ between) (hopen : .shutDown ∉ between) :
    result = some true ↔ .enqueued true ∈ between := by
  -- The queue was open when the trigger before was taken.
  have hbefore : .shutDown ∉ before := by
    intro hdown
    have hfirst := h.expected
    simp [Event.Expected, hdown] at hfirst
  have hdown : .shutDown ∉ before ++ .polled (some true) :: between := by
    simp [hbefore, hopen]
  have hresult := h.expected_later
  rw [Event.Expected, if_neg hdown] at hresult
  rw [hresult, ← triggered_of_taken before htaken]
  split <;> simp_all

/-- After the queue has been shut down, triggers are refused. -/
theorem refused_of_shutDown {accepted : Bool} (h : Explained (before ++ .shutDown :: after))
    (hlater : .enqueued accepted ∈ after) : accepted = false := by
  obtain ⟨between, rest, rfl⟩ := List.append_of_mem hlater
  simpa [Event.Expected] using h.expected_later

/-- After the queue has been shut down, every poll tells so. -/
theorem result_of_shutDown {result : Option Bool} (h : Explained (before ++ .shutDown :: after))
    (hlater : .polled result ∈ after) : result = some false := by
  obtain ⟨between, rest, rfl⟩ := List.append_of_mem hlater
  simpa [Event.Expected] using h.expected_later

end Explained

/-! ### Every act upholds it -/

/-- What holds of a queue in use after some events:

- `explained`: the events are as they should be;
- `shuttingDown`, `pending`: the flags of the queue are what the events tell;
- `parked`: a kept consumer is not parked if there is something for it to find. -/
structure Upheld (events : List Event) (u : InUse) : Prop where
  explained : Explained events
  shuttingDown : u.queue.shuttingDown = decide (.shutDown ∈ events)
  pending : u.queue.pending = triggered events
  parked : u.kept = some .parked → u.queue.found = none

namespace Upheld

variable {events : List Event} {u : InUse}

/-- At first nothing has happened. -/
theorem start : Upheld [] {} where
  explained := .nil
  shuttingDown := rfl
  pending := rfl
  parked h := nomatch h

/-- What a consumer finds is what the events tell. -/
theorem found_eq (h : Upheld events u) :
    u.queue.found = if .shutDown ∈ events then some false
      else if triggered events then some true
      else none := by
  simp only [found, h.shuttingDown, h.pending, decide_eq_true_eq]

/-- An event that changes the flags as it should, and leaves no consumer parked in front of
something, goes on like the events before. -/
theorem snoc (h : Upheld events u) {e : Event} {u' : InUse} (he : e.Expected events)
    (hshuttingDown : u'.queue.shuttingDown = (u.queue.shuttingDown || e == .shutDown))
    (hpending : u'.queue.pending = e.leaves u.queue.pending)
    (hparked : u'.kept = some .parked → u'.queue.found = none) : Upheld (events ++ [e]) u' where
  explained := h.explained.snoc he
  shuttingDown := by
    rw [hshuttingDown, h.shuttingDown]
    simp [Bool.decide_or, eq_comm, Bool.beq_eq_decide_eq]
  pending := by
    rw [hpending, h.pending, triggered, triggered, List.foldl_append]
    rfl
  parked := hparked

/-- To drop the kept consumer is no event, and changes no flag. -/
theorem dropKept (h : Upheld events u) : Upheld events u.dropKept := by
  obtain ⟨queue, kept⟩ := u
  cases kept with
  | none => exact { h with parked := nofun }
  | some c =>
      exact
        { explained := h.explained
          shuttingDown := by simpa [InUse.dropKept] using h.shuttingDown
          pending := by simpa [InUse.dropKept] using h.pending
          parked := nofun }

/-- A poll with the result that is there, after which a consumer is parked only if there is nothing
to find. -/
theorem poll (h : Upheld events u) {c : Consumer} (hc : c = .parked → u.queue.found = none)
    {u' : InUse} (hshuttingDown : u'.queue.shuttingDown = (u.queue.poll c).2.1.shuttingDown)
    (hpending : u'.queue.pending = (u.queue.poll c).2.1.pending)
    (hparked : u'.kept = some .parked → u.queue.found = none) :
    Upheld (events ++ [.polled (u.queue.poll c).1]) u' := by
  obtain ⟨hdown, htaken⟩ := u.queue.flags_poll hc
  rw [u.queue.poll_fst hc]
  refine h.snoc h.found_eq ?_ ?_ fun hkept => ?_
  · rw [hshuttingDown, hdown]
    simp
  · rw [hpending, htaken]
    -- A trigger is gone exactly if it was the result.
    unfold Event.leaves
    split
    · next heq => cases heq
    · next heq =>
        obtain heq : u.queue.found = some true := Event.polled.inj heq
        simp [heq]
    · next hnot =>
        have hother : u.queue.found ≠ some true := fun heq => hnot (congrArg Event.polled heq)
        simp [hother]
  · -- Without a result the flags are as they were.
    have hnothing := hparked hkept
    rw [found, hshuttingDown, hpending, hdown, htaken, hnothing]
    simpa [found] using hnothing

/-- Every act goes on as it should. -/
theorem perform (h : Upheld events u) (a : Act) :
    Upheld (events ++ (u.perform a).1) (u.perform a).2 := by
  cases a with
  | enqueue =>
      have hexpected : (Event.enqueued !u.queue.shuttingDown).Expected events := by
        simp [Event.Expected, h.shuttingDown]
      show Upheld (events ++ [.enqueued (u.queue.enqueue u.kept).1])
        ⟨(u.queue.enqueue u.kept).2.1, (u.queue.enqueue u.kept).2.2⟩
      rw [enqueue_eq]
      cases hdown : u.queue.shuttingDown with
      | true =>
          rw [hdown] at hexpected
          exact h.snoc hexpected (by simp) rfl h.parked
      | false =>
          rw [hdown] at hexpected
          cases hpending : u.queue.pending with
          | true => exact h.snoc hexpected (by simp) hpending h.parked
          | false =>
              exact h.snoc hexpected (by simp [hdown]) (by simp [Event.leaves]) fun hparked =>
                (notify_ne_parked _ _ hparked).elim
  | shutdown =>
      show Upheld (events ++ [.shutDown])
        ⟨(u.queue.shutdown u.kept).1, (u.queue.shutdown u.kept).2⟩
      exact h.snoc trivial (by simp [Queue.shutdown]) (by simp [Queue.shutdown, Event.leaves])
        fun hparked => (notify_ne_parked _ _ hparked).elim
  | pollFresh =>
      have hqueue : (u.perform .pollFresh).2.queue
          = if (u.queue.poll .fresh).1.isSome then (u.queue.poll .fresh).2.1
            else (u.queue.poll .fresh).2.1.drop (u.queue.poll .fresh).2.2 := rfl
      refine h.poll (c := .fresh) nofun ?_ ?_ h.parked
      · rw [hqueue]
        split <;> simp
      · rw [hqueue]
        split <;> simp
  | keep =>
      rw [show (u.perform .keep).1 = [] from rfl, List.append_nil]
      exact { h.dropKept with parked := nofun }
  | pollKept =>
      obtain ⟨queue, kept⟩ := u
      cases kept with
      | none => simpa [InUse.perform] using h
      | some c =>
          have hc : c = .parked → queue.found = none := by
            rintro rfl
            exact h.parked rfl
          refine h.poll hc rfl rfl fun hkept => ?_
          -- Only a consumer without a result is still there.
          rw [← queue.poll_fst hc]
          cases hresult : (queue.poll c).1 with
          | none => rfl
          | some result =>
              have hgone : (InUse.perform ⟨queue, some c⟩ .pollKept).2.kept = none := by
                simp [InUse.perform, hresult]
              rw [hgone] at hkept
              cases hkept
  | dropKept =>
      rw [show (u.perform .dropKept).1 = [] from rfl, List.append_nil]
      exact h.dropKept

/-- All acts go on as they should. -/
theorem performAll (h : Upheld events u) (acts : List Act) :
    Upheld (events ++ (u.performAll acts).1) (u.performAll acts).2 := by
  induction acts generalizing events u with
  | nil => simpa [InUse.performAll] using h
  | cons a acts ih =>
      have hrest := ih (h.perform a)
      rw [List.append_assoc] at hrest
      exact hrest

end Upheld

/-! ### Triggers -/

/-- What can be relied on after some events:

- `waits`: the kept consumer, if it is polled, has to wait only if no trigger is pending and the
  queue has not been shut down;
- `woken`: a kept consumer that faces a pending trigger, or a queue that has been shut down, is not
  parked;
- `admitted`: a trigger is accepted exactly if the queue has not been shut down before;
- `taken`: the first poll after a trigger has been accepted takes it, unless the queue has been shut
  down in between;
- `accepted`: between two triggers that are taken, one has been accepted;
- `coalesced`: after a trigger has been taken, the next one is taken by the first poll after some
  have been accepted, however many these are;
- `closed`: after the queue has been shut down every trigger is refused, and every poll tells so. -/
structure Delivers (events : List Event) (u : InUse) : Prop where
  waits : (u.perform .pollKept).1 = [.polled none] →
    u.queue.pending = false ∧ u.queue.shuttingDown = false
  woken : u.queue.pending = true ∨ u.queue.shuttingDown = true → u.kept ≠ some .parked
  admitted : ∀ before accepted after, events = before ++ .enqueued accepted :: after →
    (accepted = true ↔ .shutDown ∉ before)
  taken : ∀ before between result after,
    events = before ++ .enqueued true :: (between ++ .polled result :: after) →
    (∀ r, .polled r ∉ between) → result = some (decide (.shutDown ∉ between))
  accepted : ∀ before between after,
    events = before ++ .polled (some true) :: (between ++ .polled (some true) :: after) →
    .enqueued true ∈ between
  coalesced : ∀ before between result after,
    events = before ++ .polled (some true) :: (between ++ .polled result :: after) →
    .polled (some true) ∉ between → .shutDown ∉ between →
    (result = some true ↔ .enqueued true ∈ between)
  closed : ∀ before after, events = before ++ .shutDown :: after →
    (∀ accepted, .enqueued accepted ∈ after → accepted = false)
      ∧ ∀ result, .polled result ∈ after → result = some false

/-- Whatever is done with a queue and one kept consumer, its triggers are delivered. -/
theorem delivers_of_acts (acts : List Act) :
    Delivers (InUse.performAll {} acts).1 (InUse.performAll {} acts).2 := by
  have h : Upheld (InUse.performAll {} acts).1 (InUse.performAll {} acts).2 :=
    Upheld.start.performAll acts
  generalize (InUse.performAll {} acts).1 = events at h
  generalize (InUse.performAll {} acts).2 = u at h
  refine
    { waits := fun hwaits => ?_
      woken := fun hsomething hparked => ?_
      admitted := fun before accepted after heq => (heq ▸ h.explained).accepted_iff
      taken := fun before between result after heq hnone =>
        (heq ▸ h.explained).result_of_accepted hnone
      accepted := fun before between after heq => (heq ▸ h.explained).accepted_between
      coalesced := fun before between result after heq htaken hopen =>
        (heq ▸ h.explained).result_of_taken htaken hopen
      closed := fun before after heq =>
        ⟨fun accepted hlater => (heq ▸ h.explained).refused_of_shutDown hlater,
          fun result hlater => (heq ▸ h.explained).result_of_shutDown hlater⟩ }
  · -- A kept consumer gets what there is, so it waits only if there is nothing.
    obtain ⟨queue, kept⟩ := u
    cases kept with
    | none => simp [InUse.perform] at hwaits
    | some c =>
        have hresult : (queue.poll c).1 = none := by
          simpa [InUse.perform] using hwaits
        rw [queue.poll_fst fun hc => h.parked (hc ▸ rfl)] at hresult
        exact found_eq_none_iff.mp hresult
  · have hnothing := found_eq_none_iff.mp (h.parked hparked)
    simp [hnothing] at hsomething

end IngressController.Queue
