import IngressController.Proofs.Pool.Course
import IngressController.Proofs.Pool.Polls

/-!
# `IngressController.Proofs.Pool.RunBatch`: batches that can be cancelled

The units of a batch take their turns in some order. Between two turns someone may cancel a token,
or change what else the units are answered by. A `Happening` is one of these, and a course of a
batch is any list of them; the units themselves may cancel tokens, too.

Whatever the course is, each item is worked on once, in a unit of its own, with no more units in
flight than the width of the pool. Cancellation takes nothing away: a unit in flight stays there
until it ends, and results stay what they are. But from the moment on at which the token of the
batch is cancelled, each unit that looks is told so.

* `Trail.Onward` and `Trail.Sees`: what stays as it was, and what units are told, from one moment to
  a later one.
* `Undertaking.IsCarriedOut` and `Undertaking.isCarriedOut`: what holds of a batch in all its
  courses, and that each fair course and the run of the pool itself come to its end.
-/

set_option autoImplicit false

namespace IngressController

variable {Q : Type} {A : Q → Type} {β ι σ : Type}

/-! ### Tokens -/

namespace Cancelled

/-- A token that is cancelled stays so. -/
theorem covers_cancel_of_covers {c : Cancelled} {token : CancellationToken}
    (h : c.covers token = true) (other : CancellationToken) :
    (c.cancel other).covers token = true := by
  induction token with
  | root number => simp_all [covers, cancel]
  | child parent number ih =>
      simp only [covers, cancel, Bool.or_eq_true, List.contains_cons] at h ih ⊢
      exact h.imp .inr ih

/-- A child is cancelled with its parent. -/
theorem covers_child {c : Cancelled} {token : CancellationToken} (h : c.covers token = true)
    (number : Nat) : c.covers (.child token number) = true := by
  rw [covers, h, Bool.or_true]

end Cancelled

/-- To answer a request leaves all tokens cancelled that were so. -/
theorem WorkAsk.covers_answer (answers : Program.Answers A σ) (q : WorkAsk Q) {s : Cancelled × σ}
    {token : CancellationToken} (h : s.1.covers token = true) :
    (((WorkAsk.answer answers q).run s).value.2.1).covers token = true := by
  cases q with
  | isCancelled other => exact h
  | cancel other => exact Cancelled.covers_cancel_of_covers h other
  | other q => exact h

/-! ### From one moment to a later one -/

/-- What a unit can come to: one that waits to anything, one in flight to anything but to wait
again, and one that has ended stays so, with its result. -/
def Slot.GoesOnTo : Slot A β → Slot A β → Prop
  | .waiting _, _ => True
  | .running _, slot => slot.isWaiting = false
  | .finished result, slot => slot = .finished result

/-- A unit can stay where it is. -/
theorem Slot.goesOnTo_self (slot : Slot A β) : slot.GoesOnTo slot := by
  cases slot with
  | waiting work => trivial
  | running work => rfl
  | finished result => rfl

/-- What comes of what comes of a unit comes of it. -/
theorem Slot.GoesOnTo.trans {slot slot' slot'' : Slot A β} (h : slot.GoesOnTo slot')
    (h' : slot'.GoesOnTo slot'') : slot.GoesOnTo slot'' := by
  cases slot with
  | waiting work => trivial
  | running work =>
      cases slot' with
      | waiting work => cases h
      | running work => exact h'
      | finished result =>
          obtain rfl : slot'' = .finished result := h'
          rfl
  | finished result =>
      obtain rfl : slot' = .finished result := h
      exact h'

/-- A unit that starts has waited. -/
theorem Slot.Starts.goesOnTo {slot slot' : Slot A β} (h : slot.Starts slot') :
    slot.GoesOnTo slot' := by
  cases h with
  | stays => exact slot.goesOnTo_self
  | starts work => trivial

namespace Batch

variable {b b' b'' : Batch A β}

/-- A batch comes to another one if each of its units does. -/
def GoesOnTo (b b' : Batch A β) : Prop :=
  ∀ (i : Nat) (slot : Slot A β), b.slots[i]? = some slot →
    ∃ slot' : Slot A β, b'.slots[i]? = some slot' ∧ slot.GoesOnTo slot'

/-- A batch can stay where it is. -/
theorem goesOnTo_self (b : Batch A β) : b.GoesOnTo b :=
  fun _ slot hslot => ⟨slot, hslot, slot.goesOnTo_self⟩

/-- What comes of what comes of a batch comes of it. -/
theorem GoesOnTo.trans (h : b.GoesOnTo b') (h' : b'.GoesOnTo b'') : b.GoesOnTo b'' := by
  intro i slot hslot
  obtain ⟨slot', hslot', hfirst⟩ := h i slot hslot
  obtain ⟨slot'', hslot'', hsecond⟩ := h' i slot' hslot'
  exact ⟨slot'', hslot'', hfirst.trans hsecond⟩

/-- Units start. -/
theorem goesOnTo_fill (width : Nat) (b : Batch A β) : b.GoesOnTo (b.fill width).1 := by
  intro i slot hslot
  obtain ⟨slot', hslot', hstarts⟩ := exists_getElem?_of_forall₂ (forall₂_fill width b) hslot
  exact ⟨slot', hslot', hstarts.goesOnTo⟩

/-- One unit goes on. -/
theorem goesOnTo_set {i : Nat} {slot slot' : Slot A β} {results : List β}
    (hi : b.slots[i]? = some slot) (hgoes : slot.GoesOnTo slot') :
    b.GoesOnTo { slots := b.slots.set i slot', results } := by
  intro j other hother
  by_cases hij : i = j
  · subst hij
    obtain rfl : slot = other := Option.some.inj (hi.symm.trans hother)
    exact ⟨slot', List.getElem?_set_self (List.getElem?_eq_some_iff.mp hi).1, hgoes⟩
  · exact ⟨other, (List.getElem?_set_ne hij).trans hother, other.goesOnTo_self⟩

end Batch

namespace Trail

section Onward

variable {width : Nat} {x y z : Trail A β σ}

/-- A later moment of a batch: no unit has gone back, and no deed and no result is lost. -/
structure Onward (x y : Trail A β σ) : Prop where
  batch : x.batch.GoesOnTo y.batch
  deeds : x.deeds <+: y.deeds
  results : x.batch.results <+: y.batch.results

/-- A batch that stays as it is. -/
theorem onward_self (x : Trail A β σ) : x.Onward x where
  batch := x.batch.goesOnTo_self
  deeds := List.prefix_rfl
  results := List.prefix_rfl

/-- One moment after the other. -/
theorem Onward.trans (h : x.Onward y) (h' : y.Onward z) : x.Onward z where
  batch := h.batch.trans h'.batch
  deeds := h.deeds.trans h'.deeds
  results := h.results.trans h'.results

/-- A turn is a step onward. -/
theorem onward_turn (hx : x.batch.Filled width) (answers : Program.Answers A σ) (i : Nat) :
    x.Onward (x.turn answers width i) := by
  obtain h | ⟨result, hi, h⟩ | ⟨work, deed, hi, -, -, h⟩ := turn_cases hx answers i
  · rw [h]
    exact x.onward_self
  · have hends : x.batch.GoesOnTo (x.batch.finish i result) := Batch.goesOnTo_set hi rfl
    rw [h]
    exact ⟨hends.trans (Batch.goesOnTo_fill width _), List.prefix_rfl, List.prefix_append ..⟩
  · rw [h]
    exact ⟨Batch.goesOnTo_set hi rfl, List.prefix_append .., List.prefix_rfl⟩

end Onward

/-! ### What units are told -/

section Sees

variable {width : Nat} {x y z : Trail (WorkAsk.Answer A) β (Cancelled × σ)}

/-- From one moment to a later one, a unit that looks is told that a token is cancelled if it was so
at the beginning, and only if it is so at the end. -/
structure Sees (x y : Trail (WorkAsk.Answer A) β (Cancelled × σ)) : Prop where
  stays : ∀ token, x.state.1.covers token = true → y.state.1.covers token = true
  looks : ∃ new, y.deeds = x.deeds ++ new ∧ ∀ (i : Nat) (token : CancellationToken) (told : Bool),
    (i, .asked (WorkAsk.isCancelled token) told) ∈ new →
      (x.state.1.covers token = true → told = true)
        ∧ (told = true → y.state.1.covers token = true)

/-- Without deeds, all that matters is that no token is taken back. -/
theorem sees_of_deeds_eq (hdeeds : y.deeds = x.deeds)
    (hstays : ∀ token, x.state.1.covers token = true → y.state.1.covers token = true) :
    x.Sees y where
  stays := hstays
  looks := ⟨[], by rw [hdeeds, List.append_nil], fun _ _ _ h => absurd h List.not_mem_nil⟩

/-- One moment after the other. -/
theorem Sees.trans (h : x.Sees y) (h' : y.Sees z) : x.Sees z where
  stays token hx := h'.stays token (h.stays token hx)
  looks := by
    obtain ⟨first, hfirst, htold⟩ := h.looks
    obtain ⟨second, hsecond, htold'⟩ := h'.looks
    refine ⟨first ++ second, by rw [hsecond, hfirst, List.append_assoc], ?_⟩
    intro i token told hmem
    rcases List.mem_append.mp hmem with hmem | hmem
    · obtain ⟨hmust, honly⟩ := htold i token told hmem
      exact ⟨hmust, fun h => h'.stays token (honly h)⟩
    · obtain ⟨hmust, honly⟩ := htold' i token told hmem
      exact ⟨fun hx => hmust (h.stays token hx), honly⟩

/-- In a turn a unit is told what is so at this moment. -/
theorem sees_turn (hx : x.batch.Filled width) (answers : Program.Answers A σ) (i : Nat) :
    x.Sees (x.turn (WorkAsk.answer answers) width i) := by
  obtain h | ⟨result, hi, h⟩ | ⟨work, deed, hi, hdeed, -, h⟩ :=
    turn_cases hx (WorkAsk.answer answers) i
  · rw [h]
    exact sees_of_deeds_eq rfl fun _ h => h
  · rw [h]
    exact sees_of_deeds_eq rfl fun _ h => h
  · rw [h]
    cases work with
    | done result => cases hdeed
    | note n next =>
        cases hdeed
        exact ⟨fun _ h => h, _, rfl, fun j token told hmem => by simp at hmem⟩
    | rest next =>
        cases hdeed
        exact ⟨fun _ h => h, _, rfl, fun j token told hmem => by simp at hmem⟩
    | ask q next =>
        -- The only deed is this request, and the answer is given by the tokens before it.
        cases hdeed
        refine ⟨fun token h => WorkAsk.covers_answer answers q h, _, rfl, ?_⟩
        intro j token told hmem
        obtain ⟨rfl, hasked⟩ := Prod.mk.inj (List.mem_singleton.mp hmem)
        cases hasked
        exact ⟨fun h => h, fun h => h⟩

end Sees

end Trail

/-! ### Courses -/

/-- What can happen to a batch: a unit takes its turn, or someone else cancels a token, or changes
something else. -/
inductive Happening (σ : Type) where
  | turn (position : Nat)
  | cancel (token : CancellationToken)
  | meanwhile (change : σ → σ)

/-- The position of the unit whose turn it is; if it is no turn, some other position. -/
def Happening.position (other : Nat) : Happening σ → Nat
  | turn position => position
  | _ => other

namespace Trail

variable {width : Nat} {answers : Program.Answers A σ}
  {units : List (Program (WorkAsk.Answer A) (Option β))}
  {x : Trail (WorkAsk.Answer A) β (Cancelled × σ)}

/-- A batch after something has happened. -/
def undergo (answers : Program.Answers A σ) (width : Nat)
    (x : Trail (WorkAsk.Answer A) β (Cancelled × σ)) :
    Happening σ → Trail (WorkAsk.Answer A) β (Cancelled × σ)
  | .turn position => x.turn (WorkAsk.answer answers) width position
  | .cancel token => { x with state := (x.state.1.cancel token, x.state.2) }
  | .meanwhile change => { x with state := (x.state.1, change x.state.2) }

/-- A batch in its course. -/
def undergoAll (answers : Program.Answers A σ) (width : Nat)
    (x : Trail (WorkAsk.Answer A) β (Cancelled × σ)) (course : List (Happening σ)) :
    Trail (WorkAsk.Answer A) β (Cancelled × σ) :=
  course.foldl (undergo answers width) x

/-- A course that goes on after another one. -/
theorem undergoAll_append (x : Trail (WorkAsk.Answer A) β (Cancelled × σ))
    (before after : List (Happening σ)) :
    x.undergoAll answers width (before ++ after)
      = (x.undergoAll answers width before).undergoAll answers width after :=
  List.foldl_append ..

/-- A course of turns alone is an order of turns. -/
theorem undergoAll_turns (x : Trail (WorkAsk.Answer A) β (Cancelled × σ)) (order : List Nat) :
    ((x.undergoAll answers width (order.map .turn)).batch,
        (x.undergoAll answers width (order.map .turn)).state)
      = Batch.follow (WorkAsk.answer answers) width order (x.batch, x.state) := by
  induction order generalizing x with
  | nil => rfl
  | cons position order ih => exact ih _

/-- Whatever happens keeps all that holds of a batch in its course. -/
theorem InCourse.undergo (hx : x.InCourse width units) (answers : Program.Answers A σ)
    (h : Happening σ) : (x.undergo answers width h).InCourse width units := by
  cases h with
  | turn position => exact hx.turn _ position
  | cancel token => exact hx.withState _
  | meanwhile change => exact hx.withState _

/-- So does a whole course. -/
theorem InCourse.undergoAll (hx : x.InCourse width units) (answers : Program.Answers A σ)
    (course : List (Happening σ)) : (x.undergoAll answers width course).InCourse width units := by
  induction course generalizing x with
  | nil => exact hx
  | cons h course ih => exact ih (hx.undergo answers h)

/-- Whatever happens is a step onward, and units are told what is so. -/
theorem InCourse.onward_undergo (hx : x.InCourse width units) (answers : Program.Answers A σ)
    (h : Happening σ) :
    x.Onward (x.undergo answers width h) ∧ x.Sees (x.undergo answers width h) := by
  cases h with
  | turn position => exact ⟨onward_turn hx.filled _ position, sees_turn hx.filled answers position⟩
  | cancel token =>
      refine ⟨⟨x.batch.goesOnTo_self, List.prefix_rfl, List.prefix_rfl⟩, sees_of_deeds_eq rfl ?_⟩
      exact fun _ h => Cancelled.covers_cancel_of_covers h token
  | meanwhile change =>
      exact ⟨⟨x.batch.goesOnTo_self, List.prefix_rfl, List.prefix_rfl⟩,
        sees_of_deeds_eq rfl fun _ h => h⟩

/-- So is a whole course. -/
theorem InCourse.onward_undergoAll (hx : x.InCourse width units) (answers : Program.Answers A σ)
    (course : List (Happening σ)) :
    x.Onward (x.undergoAll answers width course) ∧ x.Sees (x.undergoAll answers width course) := by
  induction course generalizing x with
  | nil => exact ⟨x.onward_self, sees_of_deeds_eq rfl fun _ h => h⟩
  | cons h course ih =>
      obtain ⟨honward, hsees⟩ := hx.onward_undergo answers h
      obtain ⟨honward', hsees'⟩ := ih (hx.undergo answers h)
      exact ⟨honward.trans honward', hsees.trans hsees'⟩

end Trail

/-! ### Undertakings -/

/-- A batch of work on items, as it is given to a pool of some width: the token by which it can be
cancelled, how its units are answered, and in which state it begins. -/
structure Undertaking (A : Q → Type) (ι β σ : Type) where
  width : Nat
  token : CancellationToken
  items : List ι
  work : WorkUnit → ι → Program (WorkAsk.Answer A) (Option β)
  answers : Program.Answers A σ
  state : Cancelled × σ

namespace Undertaking

variable (u : Undertaking A ι β σ)

/-- The pool that runs it. -/
def pool : Pool :=
  Pool.ofWidth u.width

/-- The work on the item at a position, with the child of the token that it is given. -/
def workOn (i : Nat) (item : ι) : Program (WorkAsk.Answer A) (Option β) :=
  u.work { token := .child u.token i } item

/-- What is returned by the pool, if it is given the time for so many rests. -/
def run (rests : Nat) : List β × (Cancelled × σ) :=
  ((u.pool.runBatch u.answers rests u.token u.items u.work).run u.state).value

/-- The batch after a course. -/
def after (course : List (Happening σ)) : Trail (WorkAsk.Answer A) β (Cancelled × σ) :=
  (Trail.start u.pool.width (unitsOf u.token u.items u.work) u.state).undergoAll u.answers
    u.pool.width course

/-- The token of the batch is cancelled after a course. -/
def IsCancelledAfter (course : List (Happening σ)) : Prop :=
  (u.after course).state.1.covers u.token = true

/-- A unit asks whether it is cancelled, and is told. -/
def look (n : Nat) (told : Bool) : Deed (WorkAsk.Answer A) :=
  .asked (WorkAsk.isCancelled (.child u.token n)) told

/-- What becomes of an undertaking in all its courses. -/
structure IsCarriedOut : Prop where
  /-- Each item is worked on in a unit of its own, from the beginning on and once. -/
  once : ∀ course i item, u.items[i]? = some item →
    ∃ slot : Slot (WorkAsk.Answer A) β, (u.after course).batch.slots[i]? = some slot
      ∧ slot.Reached (u.workOn i item) ((u.after course).deedsOf i)
  /-- There are no other units. -/
  length : ∀ course, (u.after course).batch.slots.length = u.items.length
  /-- No more units are in flight than the pool is wide, or one. -/
  bounded : ∀ course, (u.after course).batch.inFlight ≤ max u.width 1
  /-- Units start in the order of the items. -/
  inOrder : ∀ course, (u.after course).batch.InOrder
  /-- When all units have ended, each has gone through its work to its result, and the results of
  the batch are those that were reported. -/
  reports : ∀ course, (u.after course).batch.isFinished = true →
    ∃ reported : List (Option β), reported.length = u.items.length
      ∧ (∀ i item, u.items[i]? = some item → ∃ result, reported[i]? = some result
        ∧ (u.workOn i item).Leads ((u.after course).deedsOf i) (.done result))
      ∧ (u.after course).batch.results.Perm reported.reduceOption
  /-- If each unit gets turn after turn, all units end. -/
  ends : ∀ course : Nat → Happening σ, (∀ i t, ∃ t', t ≤ t' ∧ course t' = .turn i) →
    ∃ t, (u.after ((List.range t).map course)).batch.isFinished = true
  /-- The pool itself takes one of these courses to its end, and returns the results then, if it is
  given enough time. -/
  returns : ∃ (enough : Nat) (order : List Nat),
    (u.after (order.map .turn)).batch.isFinished = true
      ∧ ∀ rests, enough ≤ rests → u.run rests
        = ((u.after (order.map .turn)).batch.results, (u.after (order.map .turn)).state)
  /-- Whatever happens, and whatever is cancelled, no unit goes back or is lost, and no result. -/
  keeps : ∀ before later, (u.after before).Onward (u.after (before ++ later))
  /-- Once the token of the batch is cancelled, each unit that looks is told so. -/
  told : ∀ before later, u.IsCancelledAfter before →
    ∃ new, (u.after (before ++ later)).deeds = (u.after before).deeds ++ new
      ∧ ∀ i n seen, (i, u.look n seen) ∈ new → seen = true
  /-- A unit that does its first deed afterwards is never told anything else. -/
  late : ∀ before later i, u.IsCancelledAfter before → (u.after before).deedsOf i = [] →
    ∀ n seen, u.look n seen ∈ (u.after (before ++ later)).deedsOf i → seen = true
  /-- No unit is told so before it or the token of the batch is cancelled. -/
  truthful : ∀ course i n, u.look n true ∈ (u.after course).deedsOf i →
    (u.after course).state.1.covers (.child u.token n) = true

variable {u}

/-- The units of a batch are the work on its items. -/
theorem getElem?_unitsOf {i : Nat} {item : ι} (hi : u.items[i]? = some item) :
    (unitsOf u.token u.items u.work)[i]? = some (u.workOn i item) := by
  rw [unitsOf, List.getElem?_mapIdx, hi]
  rfl

/-- There is one unit for each item. -/
theorem length_unitsOf : (unitsOf u.token u.items u.work).length = u.items.length := by
  rw [unitsOf, List.length_mapIdx]

/-- What holds of a batch at all times holds of it after each course. -/
theorem inCourse_after (course : List (Happening σ)) :
    (u.after course).InCourse u.pool.width (unitsOf u.token u.items u.work) :=
  (Trail.inCourse_start ..).undergoAll u.answers course

/-- A course that goes on leads onward, and units are told what is so. -/
theorem onward_after (before later : List (Happening σ)) :
    (u.after before).Onward (u.after (before ++ later))
      ∧ (u.after before).Sees (u.after (before ++ later)) := by
  rw [show u.after (before ++ later) = _ from Trail.undergoAll_append ..]
  exact (inCourse_after before).onward_undergoAll u.answers later

/-- The stages of a course without end. What is no turn of a unit counts as a turn of none. -/
theorem goesThrough_after (u : Undertaking A ι β σ) (course : Nat → Happening σ) :
    Batch.GoesThrough (WorkAsk.answer u.answers) u.pool.width
      (fun t => (course t).position u.items.length)
      fun t => (u.after ((List.range t).map course)).batch where
  filled := (u.inCourse_after []).filled
  turns t := by
    have hcourse := inCourse_after (u := u) ((List.range t).map course)
    have hnext : u.after ((List.range (t + 1)).map course)
        = (u.after ((List.range t).map course)).undergo u.answers u.pool.width (course t) := by
      rw [List.range_succ, List.map_append]
      exact Trail.undergoAll_append ..
    -- There is no unit behind the last one, so a turn at this position changes nothing.
    have hidle : ((u.after ((List.range t).map course)).batch.slots[u.items.length]?).any
        Slot.isRunning = false := by
      rw [List.getElem?_eq_none (by rw [hcourse.length, length_unitsOf])]
      rfl
    have hnone := Batch.turn_idle hcourse.filled (WorkAsk.answer u.answers) hidle
      (u.after ((List.range t).map course)).state
    refine ⟨(u.after ((List.range t).map course)).state, ?_⟩
    rw [hnext]
    cases course t with
    | turn position => rfl
    | cancel token => exact (congrArg Prod.fst hnone).symm
    | meanwhile change => exact (congrArg Prod.fst hnone).symm

/-- Whatever the units do, in which order they go on, and whoever cancels which tokens meanwhile. -/
theorem isCarriedOut (u : Undertaking A ι β σ) : u.IsCarriedOut where
  once course i item hi := (inCourse_after course).reaches i _ (getElem?_unitsOf hi)
  length course := (inCourse_after course).length.trans length_unitsOf
  bounded course := (inCourse_after course).bounded
  inOrder course := (inCourse_after course).inOrder
  reports course hend := by
    obtain ⟨reported, hlength, hreported, hperm⟩ := (inCourse_after course).exists_reported hend
    exact ⟨reported, hlength.trans length_unitsOf,
      fun i item hi => hreported i _ (getElem?_unitsOf hi), hperm⟩
  ends course hfair := by
    refine (u.goesThrough_after course).exists_isFinished u.pool.width_pos fun position t => ?_
    obtain ⟨t', hle, hturn⟩ := hfair position t
    exact ⟨t', hle, congrArg (Happening.position _) hturn⟩
  returns := by
    obtain ⟨enough, order, x, hend, horder, hvalue⟩ :=
      u.pool.exists_run_follow (WorkAsk.answer u.answers) (unitsOf u.token u.items u.work) u.state
    have hafter : ((u.after (order.map .turn)).batch, (u.after (order.map .turn)).state) = x := by
      rw [← horder]
      exact Trail.undergoAll_turns ..
    subst hafter
    exact ⟨enough, order, hend, hvalue⟩
  keeps before later := (onward_after before later).1
  told before later hcancelled := by
    obtain ⟨new, hnew, htold⟩ := (onward_after before later).2.looks
    exact ⟨new, hnew, fun i n seen h => (htold i _ seen h).1 (Cancelled.covers_child hcancelled n)⟩
  late before later i hcancelled hnone n seen h := by
    obtain ⟨new, hnew, htold⟩ := (onward_after before later).2.looks
    -- The unit has done nothing before, so it looks among what is new.
    rw [Trail.mem_deedsOf_iff, hnew, List.mem_append, ← Trail.mem_deedsOf_iff, hnone] at h
    exact (htold i _ seen (h.resolve_left List.not_mem_nil)).1 (Cancelled.covers_child hcancelled n)
  truthful course i n h := by
    -- At the beginning nothing has been done, so everything is new.
    obtain ⟨new, hnew, htold⟩ := (onward_after (u := u) [] course).2.looks
    rw [Trail.mem_deedsOf_iff, ← List.nil_append course, hnew] at h
    exact (htold i _ true h).2 rfl

/-- The first unit cancels the batch and goes on to its result, which is the only one. -/
example :
    let token := CancellationToken.root 0
    let u : Undertaking (fun _ : Unit => Unit) Nat Nat Unit :=
      { width := 0
        token
        items := [7, 8, 9]
        work := fun unit item => do
          if ← unit.isCancelled then return none
          Program.request (WorkAsk.cancel token)
          return some item
        answers := fun _ => pure ()
        state := ({}, ()) }
    (u.run 0).1 = [7] := by
  rfl

end Undertaking

end IngressController
