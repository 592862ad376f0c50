import IngressController.Leadership
import IngressController.Proofs.Metrics
import Mathlib.Data.List.Chain

/-!
# `IngressController.Proofs.Leadership`: the changes of the leadership are its history

What a pod knows about the leadership changes by two calls, in any order: it takes note of whether
it leads, and of who holds the lease. The changes that it tells are of two kinds, about its own lead
and about the leader, and one call can tell one of each.

* `Sets` and `Sees`: what can come of each call.
* `Recounts`: some changes tell of a leadership what it knows. The starts and stops of its own lead
  come in turns, of two leaders in a row the second is another one, and the metrics agree.
* `Recounts.start`, `Recounts.stop` and `Recounts.hail`: each change goes on like those before.
  `Recounts.performAll` says so of all calls.
* `leader_of_started`: a pod that begins to lead sees itself as the leader.
-/

set_option autoImplicit false

namespace IngressController.Leadership

open Metrics

/-! ### Calls -/

/-- A call that changes what a pod knows about the leadership. -/
inductive Call where
  /-- Takes note of whether the pod leads. -/
  | setLeading (leading : Bool)
  /-- Takes note of who holds the lease. -/
  | observe (holder : String)
  deriving DecidableEq

/-- The leadership after a call, and the changes that are told. -/
def perform (l : Leadership) : Call → Leadership × List Event
  | .setLeading leading => l.setLeading leading
  | .observe holder => l.observe holder

/-- The leadership after some calls, and the changes that are told. -/
def performAll (l : Leadership) : List Call → Leadership × List Event
  | [] => (l, [])
  | c :: calls =>
    let (l, events) := l.perform c
    let (l, more) := l.performAll calls
    (l, events ++ more)

section Calls

/-- What can come of taking note of who holds the lease. -/
inductive Sees (l : Leadership) (holder : String) : Leadership × List Event → Prop where
  /-- Nobody holds it, or the leader that was seen before. -/
  | same (h : holder = "" ∨ l.leader = holder) : Sees l holder (l, [])
  | new (hname : holder ≠ "") (hnew : l.leader ≠ holder) :
      Sees l holder ({ l with leader := holder }, [.newLeader holder])

/-- What can come of taking note of whether the pod leads. -/
inductive Sets (l : Leadership) : Bool → Leadership × List Event → Prop where
  | keeps : Sets l l.leading (l, [])
  | stops (h : l.leading = true) : Sets l false ({ l with leading := false }, [.stopped])
  /-- A pod that begins to lead sees itself as the leader. -/
  | starts (h : l.leading = false) {x : Leadership × List Event}
      (hsees : Sees { l with leading := true } l.identity x) :
      Sets l true (x.1, .started :: x.2)

variable (l : Leadership)

theorem sees_observe (holder : String) : l.Sees holder (l.observe holder) := by
  unfold observe
  split
  · next h => exact .same h
  · next h =>
      rw [not_or] at h
      exact .new h.1 h.2

theorem sets_setLeading (leading : Bool) : l.Sets leading (l.setLeading leading) := by
  unfold setLeading
  split
  · next h =>
      rw [← h]
      exact .keeps
  · next h =>
      cases leading with
      | false => exact .stops (by simpa using h)
      | true => exact .starts (by simpa using h) (sees_observe _ _)

theorem performAll_cons (c : Call) (calls : List Call) :
    l.performAll (c :: calls)
      = (((l.perform c).1.performAll calls).1,
          (l.perform c).2 ++ ((l.perform c).1.performAll calls).2) := rfl

theorem performAll_append (calls calls' : List Call) :
    l.performAll (calls ++ calls')
      = (((l.performAll calls).1.performAll calls').1,
          (l.performAll calls).2 ++ ((l.performAll calls).1.performAll calls').2) := by
  induction calls generalizing l with
  | nil => rfl
  | cons c calls ih =>
      rw [List.cons_append, performAll_cons, performAll_cons, ih, ← List.append_assoc]

variable {l} {holder : String} {leading : Bool} {x : Leadership × List Event}

theorem Sees.leading_eq (h : l.Sees holder x) : x.1.leading = l.leading := by
  cases h <;> rfl

theorem Sees.identity_eq (h : l.Sees holder x) : x.1.identity = l.identity := by
  cases h <;> rfl

/-- Who holds the lease is seen as the leader, unless nobody does. -/
theorem Sees.leader_eq (h : l.Sees holder x) (hname : holder ≠ "") : x.1.leader = holder := by
  cases h with
  | same hsame => exact hsame.resolve_left hname
  | new hname hnew => rfl

theorem Sets.leading_eq (h : l.Sets leading x) : x.1.leading = leading := by
  cases h with
  | keeps => rfl
  | stops hl => rfl
  | starts hl hsees => exact hsees.leading_eq

theorem Sets.identity_eq (h : l.Sets leading x) : x.1.identity = l.identity := by
  cases h with
  | keeps => rfl
  | stops hl => rfl
  | starts hl hsees => exact hsees.identity_eq

/-- A pod that tells that it has begun to lead sees itself as the leader. -/
theorem Sets.leader_of_started (h : l.Sets leading x) (hstarted : .started ∈ x.2)
    (hname : l.identity ≠ "") : x.1.leader = l.identity := by
  cases h with
  | keeps => cases hstarted
  | stops hl => simp at hstarted
  | starts hl hsees => exact hsees.leader_eq hname

variable (l)

theorem identity_perform (c : Call) : (l.perform c).1.identity = l.identity := by
  cases c with
  | setLeading leading => exact (l.sets_setLeading leading).identity_eq
  | observe holder => exact (l.sees_observe holder).identity_eq

theorem identity_performAll (calls : List Call) :
    (l.performAll calls).1.identity = l.identity := by
  induction calls generalizing l with
  | nil => rfl
  | cons c calls ih => exact (ih _).trans (l.identity_perform c)

/-- Only a pod that takes note that it leads can tell that it has begun to. -/
theorem leader_of_started {c : Call} (h : .started ∈ (l.perform c).2) (hname : l.identity ≠ "") :
    (l.perform c).1.leader = l.identity := by
  cases c with
  | setLeading leading => exact (l.sets_setLeading leading).leader_of_started h hname
  | observe holder =>
      have hsees := l.sees_observe holder
      change .started ∈ (l.observe holder).2 at h
      generalize l.observe holder = x at hsees h
      cases hsees with
      | same hsame => cases h
      | new hnamed hnew => simp at h

end Calls

/-! ### What some changes tell -/

/-- Whether a change is about the lead of the pod itself. -/
def Event.isOwn : Event → Bool
  | .newLeader _ => false
  | _ => true

/-- The leader that a change tells of. -/
def Event.leader? : Event → Option String
  | .newLeader holder => some holder
  | _ => none

/-- The changes that are about the lead of the pod itself. -/
def own (events : List Event) : List Event :=
  events.filter Event.isOwn

/-- The leaders that some changes tell of. -/
def leaders (events : List Event) : List String :=
  events.filterMap Event.leader?

/-- The metrics after some changes have been reported. -/
def measured (events : List Event) : Registry :=
  Registry.recordAll {} (reportAll events).notes

/-- How often the leadership has been gained (`acquired`) or lost (`lost`). -/
def electionCount (r : Registry) (status : String) : Nat :=
  (r.elections.get? status).getD 0

/-- The changes tell what a pod knows about the leadership:

- `alternate`, `begins`: its own lead starts and stops in turns, and starts first;
- `leading`: it leads if the last of these was a start;
- `distinct`, `named`: a new leader is another one than before, and has a name;
- `leader`: the leader is the last one told of;
- `counted`, `shown`: the lead has been gained as often as it has been lost, and once more if the
  pod leads; the gauge shows whether it does. -/
structure Recounts (events : List Event) (l : Leadership) : Prop where
  alternate : (own events).IsChain (· ≠ ·)
  begins : ∀ e ∈ (own events).head?, e = .started
  leading : l.leading = true ↔ (own events).getLast? = some .started
  distinct : (leaders events).IsChain (· ≠ ·)
  named : "" ∉ leaders events
  leader : l.leader = (leaders events).getLast?.getD ""
  counted : electionCount (measured events) "acquired"
    = electionCount (measured events) "lost" + l.leading.toNat
  shown : (measured events).leader = l.leading

/-! ### One more change -/

section Snoc

variable (events : List Event)

@[simp] theorem own_snoc_started : own (events ++ [.started]) = own events ++ [.started] :=
  List.filter_append ..

@[simp] theorem own_snoc_stopped : own (events ++ [.stopped]) = own events ++ [.stopped] :=
  List.filter_append ..

@[simp] theorem own_snoc_newLeader (holder : String) :
    own (events ++ [.newLeader holder]) = own events := by
  simp [own, Event.isOwn]

@[simp] theorem leaders_snoc_started : leaders (events ++ [.started]) = leaders events := by
  simp [leaders, List.filterMap_append, List.filterMap_cons, Event.leader?]

@[simp] theorem leaders_snoc_stopped : leaders (events ++ [.stopped]) = leaders events := by
  simp [leaders, List.filterMap_append, List.filterMap_cons, Event.leader?]

@[simp] theorem leaders_snoc_newLeader (holder : String) :
    leaders (events ++ [.newLeader holder]) = leaders events ++ [holder] :=
  List.filterMap_append ..

theorem notes_reportAll_append (events' : List Event) :
    (reportAll (events ++ events')).notes
      = (reportAll events).notes ++ (reportAll events').notes := by
  induction events with
  | nil => rfl
  | cons e events ih =>
      show e.report.notes ++ (reportAll (events ++ events')).notes = _
      rw [ih, ← List.append_assoc]
      rfl

/-- One more change is measured after those before. -/
theorem measured_snoc (e : Event) :
    measured (events ++ [e]) = (measured events).recordAll e.report.notes := by
  have hnotes : (reportAll [e]).notes = e.report.notes := List.append_nil _
  simp only [measured, Registry.recordAll, notes_reportAll_append, hnotes, List.filterMap_append,
    List.foldl_append]

theorem electionCount_snoc_started (status : String) :
    electionCount (measured (events ++ [.started])) status
      = electionCount (measured events) status + if "acquired" = status then 1 else 0 := by
  rw [measured_snoc]
  exact getD_get?_increment _ _ _

theorem electionCount_snoc_stopped (status : String) :
    electionCount (measured (events ++ [.stopped])) status
      = electionCount (measured events) status + if "lost" = status then 1 else 0 := by
  rw [measured_snoc]
  exact getD_get?_increment _ _ _

end Snoc

/-- In a list without repetitions a next element is another one than the last. -/
theorem isChain_ne_snoc {α : Type} {xs : List α} {x : α} (h : xs.IsChain (· ≠ ·))
    (hlast : xs.getLast? ≠ some x) : (xs ++ [x]).IsChain (· ≠ ·) := by
  refine h.append (List.isChain_singleton x) fun last hmem next hnext heq => ?_
  have hx : x = next := by simpa using hnext
  rw [hx, ← heq] at hlast
  exact hlast hmem

namespace Recounts

variable {events : List Event} {l : Leadership}

/-- At first nothing has been told. -/
theorem nil (identity : String) : Recounts [] { identity } where
  alternate := .nil
  begins := nofun
  leading := by simp [own]
  distinct := .nil
  named := List.not_mem_nil
  leader := rfl
  counted := rfl
  shown := rfl

/-- Whatever the pod tells about its lead next, a start comes first. -/
theorem begins_snoc (h : Recounts events l) {e : Event} (he : own events = [] → e = .started) :
    ∀ first ∈ (own events ++ [e]).head?, first = .started := by
  intro first hfirst
  rw [List.head?_append] at hfirst
  cases hhead : (own events).head? with
  | none =>
      rw [hhead] at hfirst
      rw [← he (List.head?_eq_none_iff.mp hhead)]
      exact (Option.some.inj hfirst).symm
  | some earliest =>
      rw [hhead] at hfirst
      exact h.begins first (hhead.trans hfirst)

/-- A pod that does not lead can begin to. -/
theorem start (h : Recounts events l) (hl : l.leading = false) :
    Recounts (events ++ [.started]) { l with leading := true } where
  alternate := by
    rw [own_snoc_started]
    refine isChain_ne_snoc h.alternate fun hlast => ?_
    rw [h.leading.mpr hlast] at hl
    exact Bool.noConfusion hl
  begins := by
    rw [own_snoc_started]
    exact h.begins_snoc fun _ => rfl
  leading := by simp
  distinct := by simpa using h.distinct
  named := by simpa using h.named
  leader := by simpa using h.leader
  counted := by
    have hcounted := h.counted
    simp only [hl, Bool.toNat_false] at hcounted
    simp [electionCount_snoc_started, hcounted]
  shown := by
    rw [measured_snoc]
    rfl

/-- A pod that leads can stop. -/
theorem stop (h : Recounts events l) (hl : l.leading = true) :
    Recounts (events ++ [.stopped]) { l with leading := false } where
  alternate := by
    rw [own_snoc_stopped]
    refine isChain_ne_snoc h.alternate ?_
    rw [h.leading.mp hl]
    simp
  begins := by
    rw [own_snoc_stopped]
    refine h.begins_snoc fun hnone => ?_
    have hlast := h.leading.mp hl
    simp [hnone] at hlast
  leading := by simp
  distinct := by simpa using h.distinct
  named := by simpa using h.named
  leader := by simpa using h.leader
  counted := by
    have hcounted := h.counted
    simp only [hl, Bool.toNat_true] at hcounted
    simp [electionCount_snoc_stopped, hcounted]
  shown := by
    rw [measured_snoc]
    rfl

/-- A leader can be told of that has a name and is another one than before. -/
theorem hail (h : Recounts events l) {holder : String} (hname : holder ≠ "")
    (hnew : l.leader ≠ holder) :
    Recounts (events ++ [.newLeader holder]) { l with leader := holder } where
  alternate := by simpa using h.alternate
  begins := by simpa using h.begins
  leading := by simpa using h.leading
  distinct := by
    rw [leaders_snoc_newLeader]
    refine isChain_ne_snoc h.distinct fun hlast => ?_
    rw [h.leader, hlast] at hnew
    exact hnew rfl
  named := by simpa [hname.symm] using h.named
  leader := by simp
  -- Only the own lead is measured.
  counted := by
    rw [measured_snoc]
    exact h.counted
  shown := by
    rw [measured_snoc]
    exact h.shown

/-! ### Every call -/

variable {x : Leadership × List Event}

theorem sees (h : Recounts events l) {holder : String} (hsees : l.Sees holder x) :
    Recounts (events ++ x.2) x.1 := by
  cases hsees with
  | same hsame =>
      rw [List.append_nil]
      exact h
  | new hname hnew => exact h.hail hname hnew

theorem sets (h : Recounts events l) {leading : Bool} (hsets : l.Sets leading x) :
    Recounts (events ++ x.2) x.1 := by
  cases hsets with
  | keeps =>
      rw [List.append_nil]
      exact h
  | stops hl => exact h.stop hl
  | @starts hl y hsees =>
      -- The start is told before the new leader.
      have hseen : Recounts (events ++ [.started] ++ y.2) y.1 := (h.start hl).sees hsees
      rw [List.append_assoc] at hseen
      exact hseen

theorem perform (h : Recounts events l) (c : Call) :
    Recounts (events ++ (l.perform c).2) (l.perform c).1 := by
  cases c with
  | setLeading leading => exact h.sets (l.sets_setLeading leading)
  | observe holder => exact h.sees (l.sees_observe holder)

/-- Whatever calls are made, the changes that are told tell what the pod knows. -/
theorem performAll (h : Recounts events l) (calls : List Call) :
    Recounts (events ++ (l.performAll calls).2) (l.performAll calls).1 := by
  induction calls generalizing events l with
  | nil =>
      rw [Leadership.performAll, List.append_nil]
      exact h
  | cons c calls ih =>
      have hrest := ih (h.perform c)
      rw [List.append_assoc] at hrest
      exact hrest

end Recounts

end IngressController.Leadership
