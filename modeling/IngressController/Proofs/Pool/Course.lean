import IngressController.Proofs.Pool

/-!
# `IngressController.Proofs.Pool.Course`: what the units of a batch have done

A batch shows where its units stand, but not how they came there. A `Trail` keeps a record beside
the batch and the state: which unit has made which note, rested, or asked for what and been answered
how. So it can be told that a unit has gone through its work once, from the beginning on, with the
answers that were given to it.

Between the turns of the units anything can happen to the state.

* `Program.Leads`: the deeds that lead from a program to what is left of it.
* `Slot.Reached`: what a unit must have done to stand where it stands.
* `Trail.InCourse` and `Trail.InCourse.turn`: what holds of every batch at all times. All that a
  turn can do keeps it so.
-/

set_option autoImplicit false

namespace IngressController

variable {Q : Type} {A : Q → Type} {α β σ : Type}

/-! ### Deeds -/

/-- What a program does in one step. -/
inductive Deed (A : Q → Type) where
  | noted (n : Note)
  | rested
  | asked (q : Q) (answer : A q)

namespace Program

/-- What a program does in its first step, and what is left of it then. -/
inductive Does : Program A α → Deed A → Program A α → Prop
  | note (n : Note) (next : Program A α) : Does (.note n next) (.noted n) next
  | rest (next : Program A α) : Does (.rest next) .rested next
  | ask (q : Q) (next : A q → Program A α) (answer : A q) :
      Does (.ask q next) (.asked q answer) (next answer)

/-- Deeds that lead from a program to what is left of it, in their order. -/
inductive Leads : Program A α → List (Deed A) → Program A α → Prop
  | nothing (p : Program A α) : Leads p [] p
  | further {p next left : Program A α} {deeds : List (Deed A)} {deed : Deed A}
      (leads : Leads p deeds next) (does : Does next deed left) : Leads p (deeds ++ [deed]) left

/-- What a program does in its first step if it is answered in this way; nothing if it has ended. -/
def deed? (answers : Answers A σ) : Program A α → σ → Option (Deed A)
  | done _, _ => none
  | note n _, _ => some (.noted n)
  | rest _, _ => some .rested
  | ask q _, s => some (.asked q ((answers q).run s).value.1)

/-- A program that has not ended does something, and its step leads to what is left. -/
theorem exists_does_step (answers : Answers A σ) {p : Program A α} (hp : ∀ a, p ≠ .done a) (s : σ) :
    ∃ deed, p.deed? answers s = some deed ∧ p.Does deed ((p.step answers).run s).value.1 := by
  cases p with
  | done a => exact absurd rfl (hp a)
  | note n next => exact ⟨_, rfl, .note n next⟩
  | rest next => exact ⟨_, rfl, .rest next⟩
  | ask q next => exact ⟨_, rfl, .ask q next _⟩

end Program

/-- What a unit with this work must have done to stand where it stands: nothing if it waits, else
all that leads to what it has left to do, and if it has ended, to its result. -/
def Slot.Reached (work : Program A (Option β)) (deeds : List (Deed A)) : Slot A β → Prop
  | .waiting left => left = work ∧ deeds = []
  | .running left => work.Leads deeds left
  | .finished result => work.Leads deeds (.done result)

/-- To start is no deed. -/
theorem Slot.Reached.of_starts {work : Program A (Option β)} {deeds : List (Deed A)}
    {slot slot' : Slot A β} (h : slot.Reached work deeds) (hstarts : slot.Starts slot') :
    slot'.Reached work deeds := by
  cases hstarts with
  | stays => exact h
  | starts left =>
      obtain ⟨rfl, rfl⟩ := h
      exact .nothing left

/-! ### Trails -/

/-- A batch, the state by which its units are answered, and what they have done so far, each deed
with the position of its unit. -/
structure Trail (A : Q → Type) (β σ : Type) where
  batch : Batch A β
  state : σ
  deeds : List (Nat × Deed A) := []

namespace Trail

/-- What the unit at a position has done so far. -/
def deedsOf (x : Trail A β σ) (position : Nat) : List (Deed A) :=
  (x.deeds.filter (·.1 == position)).map (·.2)

/-- The deeds of a unit are those that are recorded with its position. -/
theorem mem_deedsOf_iff {x : Trail A β σ} {position : Nat} {deed : Deed A} :
    deed ∈ x.deedsOf position ↔ (position, deed) ∈ x.deeds := by
  simp [deedsOf]

/-- What the unit at a position does in its turn; nothing if it is not in flight, or has only to
end. -/
def deed? (answers : Program.Answers A σ) (x : Trail A β σ) (position : Nat) : Option (Deed A) :=
  match x.batch.slots[position]? with
  | some (.running work) => work.deed? answers x.state
  | _ => none

/-- A turn of the unit at a position. -/
def turn (answers : Program.Answers A σ) (width position : Nat) (x : Trail A β σ) : Trail A β σ :=
  let after := ((x.batch.turn answers width position).run x.state).value
  { batch := after.1
    state := after.2
    deeds := x.deeds ++ (x.deed? answers position).toList.map ((position, ·)) }

/-- All that can happen in a turn: nothing; or a unit ends and makes room for others; or a unit
makes one step, which is a deed. -/
theorem turn_cases {width : Nat} {x : Trail A β σ} (hfilled : x.batch.Filled width)
    (answers : Program.Answers A σ) (i : Nat) :
    x.turn answers width i = x
      ∨ (∃ result, x.batch.slots[i]? = some (.running (.done result))
        ∧ x.turn answers width i = { x with batch := ((x.batch.finish i result).fill width).1 })
      ∨ ∃ work deed, x.batch.slots[i]? = some (.running work)
        ∧ work.deed? answers x.state = some deed
        ∧ work.Does deed ((work.step answers).run x.state).value.1
        ∧ x.turn answers width i
          = { batch := x.batch.goOn i ((work.step answers).run x.state).value.1
              state := ((work.step answers).run x.state).value.2
              deeds := x.deeds ++ [(i, deed)] } := by
  obtain ⟨hidle, h⟩ | ⟨result, hi, h⟩ | ⟨work, hi, hwork, h⟩ :=
    Batch.turn_cases hfilled answers i x.state
  · refine .inl ?_
    have hnone : x.deed? answers i = none := by
      rw [deed?]
      split
      · next hslot =>
          rw [hslot] at hidle
          exact absurd hidle (by simp [Slot.isRunning])
      · rfl
    rw [turn, h, hnone]
    simp
  · refine .inr (.inl ⟨result, hi, ?_⟩)
    rw [turn, h, deed?, hi]
    simp [Program.deed?]
  · obtain ⟨deed, hdeed, hdoes⟩ := Program.exists_does_step answers hwork x.state
    refine .inr (.inr ⟨work, deed, hi, hdeed, hdoes, ?_⟩)
    rw [turn, h, deed?, hi]
    simp [hdeed]

/-- A deed more is one of its own unit. -/
theorem deedsOf_append {x y : Trail A β σ} {i : Nat} {deed : Deed A}
    (h : y.deeds = x.deeds ++ [(i, deed)]) (j : Nat) :
    y.deedsOf j = x.deedsOf j ++ if i = j then [deed] else [] := by
  by_cases hj : i = j <;> simp [deedsOf, h, hj]

end Trail

/-! ### Where the units stand -/

namespace Batch

variable {width : Nat} {b : Batch A β}

/-- Each unit has done what it must have done to stand where it stands. -/
def Reaches (units : List (Program A (Option β))) (deeds : Nat → List (Deed A)) (b : Batch A β) :
    Prop :=
  ∀ i work, units[i]? = some work →
    ∃ slot : Slot A β, b.slots[i]? = some slot ∧ slot.Reached work (deeds i)

/-- At the beginning all units wait. -/
theorem reaches_ofWork (units : List (Program A (Option β))) :
    (ofWork units).Reaches units fun _ => [] := by
  intro i work hi
  refine ⟨.waiting work, ?_, rfl, rfl⟩
  show (units.map Slot.waiting)[i]? = _
  rw [List.getElem?_map, hi]
  rfl

section Reaches

variable {units : List (Program A (Option β))} {deeds : Nat → List (Deed A)}

/-- Room lets units start, which is no deed. -/
theorem Reaches.fill (h : b.Reaches units deeds) (width : Nat) :
    (b.fill width).1.Reaches units deeds := by
  intro i work hi
  obtain ⟨slot, hslot, hreached⟩ := h i work hi
  obtain ⟨slot', hslot', hstarts⟩ := exists_getElem?_of_forall₂ (forall₂_fill width b) hslot
  exact ⟨slot', hslot', hreached.of_starts hstarts⟩

/-- A unit does something and stands somewhere else, and the others stay where they are. -/
theorem Reaches.set (h : b.Reaches units deeds) {i : Nat} {slot slot' : Slot A β}
    {deeds' : Nat → List (Deed A)} {results : List β} (hi : b.slots[i]? = some slot)
    (hself : ∀ work, slot.Reached work (deeds i) → slot'.Reached work (deeds' i))
    (hothers : ∀ j, j ≠ i → deeds' j = deeds j) :
    ({ slots := b.slots.set i slot', results } : Batch A β).Reaches units deeds' := by
  intro j work hj
  obtain ⟨old, hold, hreached⟩ := h j work hj
  by_cases hij : j = i
  · subst hij
    obtain rfl : slot = old := Option.some.inj (hi.symm.trans hold)
    exact ⟨slot', List.getElem?_set_self (List.getElem?_eq_some_iff.mp hi).1, hself work hreached⟩
  · refine ⟨old, ?_, ?_⟩
    · rw [List.getElem?_set_ne (Ne.symm hij), hold]
    · rw [hothers j hij]
      exact hreached

/-- To end is no deed. -/
theorem Reaches.finish (h : b.Reaches units deeds) {i : Nat} {result : Option β}
    (hi : b.slots[i]? = some (.running (.done result))) :
    (b.finish i result).Reaches units deeds :=
  h.set hi (fun _ hreached => hreached) fun _ _ => rfl

/-- A step of a unit is a deed of this unit. -/
theorem Reaches.goOn (h : b.Reaches units deeds) {i : Nat} {work next : Program A (Option β)}
    {deed : Deed A} {deeds' : Nat → List (Deed A)} (hi : b.slots[i]? = some (.running work))
    (hdoes : work.Does deed next) (hself : deeds' i = deeds i ++ [deed])
    (hothers : ∀ j, j ≠ i → deeds' j = deeds j) : (b.goOn i next).Reaches units deeds' := by
  refine h.set hi (fun unit hreached => ?_) hothers
  rw [hself]
  exact .further hreached hdoes

end Reaches

/-- The units that wait are behind those that have started. -/
def InOrder (b : Batch A β) : Prop :=
  (b.slots.map Slot.isWaiting).Pairwise (· ≤ ·)

/-- At the beginning all units wait. -/
theorem inOrder_ofWork (units : List (Program A (Option β))) : (ofWork units).InOrder := by
  have hall : ∀ b ∈ (ofWork units).slots.map Slot.isWaiting, b = true := by
    intro b hb
    obtain ⟨slot, hslot, rfl⟩ := List.mem_map.mp hb
    obtain ⟨work, -, rfl⟩ := List.mem_map.mp hslot
    rfl
  exact List.pairwise_of_forall_mem_list fun a ha b hb => by rw [hall a ha, hall b hb]

/-- Room is given to the first units that wait. -/
theorem pairwise_isWaiting_startSlots {slots : List (Slot A β)}
    (h : (slots.map Slot.isWaiting).Pairwise (· ≤ ·)) (room position : Nat) :
    ((startSlots room position slots).1.map Slot.isWaiting).Pairwise (· ≤ ·) := by
  induction slots generalizing room position with
  | nil => exact .nil
  | cons slot slots ih =>
      cases room with
      | zero =>
          rw [startSlots_eq_self (.inl rfl)]
          exact h
      | succ room =>
          have hrest := (List.pairwise_cons.mp h).2
          -- With room, the first unit does not wait any longer, whatever it has done before.
          cases slot <;> exact List.pairwise_cons.mpr ⟨fun _ _ => Bool.false_le _, ih hrest _ _⟩

/-- Units start in their order. -/
theorem InOrder.fill (h : b.InOrder) (width : Nat) : (b.fill width).1.InOrder :=
  pairwise_isWaiting_startSlots h ..

/-- A unit that has started stands somewhere else, but does not wait. -/
theorem InOrder.set (h : b.InOrder) {i : Nat} {slot slot' : Slot A β} {results : List β}
    (hi : b.slots[i]? = some slot) (hsame : slot'.isWaiting = slot.isWaiting) :
    ({ slots := b.slots.set i slot', results } : Batch A β).InOrder := by
  obtain ⟨hlt, hget⟩ := List.getElem?_eq_some_iff.mp hi
  have hlt' : i < (b.slots.map Slot.isWaiting).length := by rwa [List.length_map]
  have hmap : (b.slots.set i slot').map Slot.isWaiting = b.slots.map Slot.isWaiting := by
    have hvalue : (b.slots.map Slot.isWaiting)[i] = slot'.isWaiting := by
      rw [List.getElem_map, hget, hsame]
    rw [List.map_set, ← hvalue, List.set_getElem_self]
  show ((b.slots.set i slot').map Slot.isWaiting).Pairwise (· ≤ ·)
  rw [hmap]
  exact h

/-- A unit that ends has started before. -/
theorem InOrder.finish (h : b.InOrder) {i : Nat} {work : Program A (Option β)}
    (hi : b.slots[i]? = some (.running work)) (result : Option β) : (b.finish i result).InOrder :=
  h.set hi rfl

/-- A unit that goes on has started before. -/
theorem InOrder.goOn (h : b.InOrder) {i : Nat} {work : Program A (Option β)}
    (hi : b.slots[i]? = some (.running work)) (next : Program A (Option β)) :
    (b.goOn i next).InOrder :=
  h.set hi rfl

end Batch

/-! ### At all times -/

namespace Trail

variable {width : Nat} {units : List (Program A (Option β))} {x : Trail A β σ}

/-- What holds of a batch of units at all times. -/
structure InCourse (width : Nat) (units : List (Program A (Option β))) (x : Trail A β σ) :
    Prop where
  /-- Each unit has its place. -/
  length : x.batch.slots.length = units.length
  /-- Each has gone through its work once, as far as it has come. -/
  reaches : x.batch.Reaches units x.deedsOf
  /-- Units start in their order. -/
  inOrder : x.batch.InOrder
  /-- No unit waits while there is room. -/
  filled : x.batch.Filled width
  /-- No more units are in flight than there is room for. -/
  bounded : x.batch.inFlight ≤ width
  /-- The results are those of the units that have ended. -/
  accounted : x.batch.Accounted

/-- A batch that begins. -/
def start (width : Nat) (units : List (Program A (Option β))) (s : σ) : Trail A β σ where
  batch := ((Batch.ofWork units).fill width).1
  state := s

/-- To fill a batch neither adds units nor takes any away. -/
theorem length_fill (width : Nat) (b : Batch A β) :
    (b.fill width).1.slots.length = b.slots.length :=
  (Batch.forall₂_fill width b).length_eq.symm

/-- It holds when a batch begins. -/
theorem inCourse_start (width : Nat) (units : List (Program A (Option β))) (s : σ) :
    (start width units s).InCourse width units where
  length := (length_fill ..).trans (List.length_map _)
  reaches := (Batch.reaches_ofWork units).fill width
  inOrder := (Batch.inOrder_ofWork units).fill width
  filled := Batch.filled_fill ..
  bounded := by
    have hnone : (Batch.ofWork units).inFlight = 0 := by
      refine List.countP_eq_zero.mpr fun slot hslot => ?_
      obtain ⟨work, -, rfl⟩ := List.mem_map.mp hslot
      exact Bool.false_ne_true
    exact Batch.inFlight_fill_le (hnone.trans_le (Nat.zero_le width))
  accounted := (Batch.accounted_ofWork units).fill width

/-- A turn keeps it so. -/
theorem InCourse.turn (hx : x.InCourse width units) (answers : Program.Answers A σ) (i : Nat) :
    (x.turn answers width i).InCourse width units := by
  have hfilled := hx.filled.turn answers i x.state
  have hbounded := Batch.inFlight_turn_le hx.filled hx.bounded answers i x.state
  have haccounted := hx.accounted.turn hx.filled answers i x.state
  obtain h | ⟨result, hi, h⟩ | ⟨work, deed, hi, -, hdoes, h⟩ := turn_cases hx.filled answers i
  · rw [h]
    exact hx
  · refine ⟨?_, ?_, ?_, hfilled, hbounded, haccounted⟩ <;> rw [h]
    · exact ((length_fill ..).trans (List.length_set ..)).trans hx.length
    · exact (hx.reaches.finish hi).fill width
    · exact (hx.inOrder.finish hi result).fill width
  · refine ⟨?_, ?_, ?_, hfilled, hbounded, haccounted⟩ <;> rw [h]
    · exact (List.length_set ..).trans hx.length
    · refine hx.reaches.goOn hi hdoes ?_ fun j hj => ?_
      · rw [deedsOf_append rfl, if_pos rfl]
      · rw [deedsOf_append rfl, if_neg (Ne.symm hj), List.append_nil]
    · exact hx.inOrder.goOn hi _

/-- So does a change of the state alone. -/
theorem InCourse.withState (hx : x.InCourse width units) (s : σ) :
    ({ x with state := s } : Trail A β σ).InCourse width units where
  length := hx.length
  reaches := hx.reaches
  inOrder := hx.inOrder
  filled := hx.filled
  bounded := hx.bounded
  accounted := hx.accounted

/-- When all units have ended, each has gone through its work to its result, and the results are
those that units have reported. -/
theorem InCourse.exists_reported (hx : x.InCourse width units) (hend : x.batch.isFinished = true) :
    ∃ reported : List (Option β), reported.length = units.length
      ∧ (∀ (i : Nat) (work : Program A (Option β)), units[i]? = some work →
        ∃ result, reported[i]? = some result ∧ work.Leads (x.deedsOf i) (.done result))
      ∧ x.batch.results.Perm reported.reduceOption := by
  refine ⟨x.batch.slots.map Slot.result?, ?_, fun i work hi => ?_, ?_⟩
  · rw [List.length_map, hx.length]
  · obtain ⟨slot, hslot, hreached⟩ := hx.reaches i work hi
    have hfinished := List.all_eq_true.mp hend slot (List.mem_of_getElem? hslot)
    rw [List.getElem?_map, hslot]
    cases slot with
    | waiting left => cases hfinished
    | running left => cases hfinished
    | finished result => exact ⟨result, rfl, hreached⟩
  · -- What counts as reported is what the results are accounted for with.
    show x.batch.results.Perm ((x.batch.slots.map Slot.result?).filterMap id)
    rw [List.filterMap_map]
    exact hx.accounted

end Trail

end IngressController
