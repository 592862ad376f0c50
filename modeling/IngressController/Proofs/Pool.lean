import IngressController.Pool
import IngressController.Proofs.Program
import Mathlib.Data.List.Forall2
import Mathlib.Data.Nat.Pairing

/-!
# `IngressController.Proofs.Pool`: every order of turns of a batch

A turn of a batch is a step of the unit at one position, after which units that wait are started as
long as there is room. An order of turns is any list of positions: a turn of a unit that is not in
flight changes nothing, so every way in which the units can progress is among these orders.

* `Batch.turn_cases`: all that a turn can do. Nothing, end a unit, or make one step of it.
* `Batch.inFlight_turn_le`: no more units are ever in flight than there is room for.
* `Batch.GoesThrough.exists_isFinished`: if each position gets turn after turn, the batch ends,
  whatever the answers are and whatever else happens between two turns.
* `Batch.follow_keeps`: along every order the results are those of the units that have ended.
* `Pool.run_follow` and `Pool.finish_follow`: the pool itself follows one of these orders. For units
  that never rest, its queue is an order of turns at whose end the batch has ended.
-/

set_option autoImplicit false

namespace IngressController

variable {Q : Type} {A : Q → Type} {β σ : Type}

/-! ### Lists -/

/-- What holds between two lists position by position holds at each position. -/
theorem exists_getElem?_of_forall₂ {α α' : Type} {R : α → α' → Prop} {l : List α} {l' : List α'}
    (h : List.Forall₂ R l l') {i : Nat} {a : α} (hi : l[i]? = some a) :
    ∃ a', l'[i]? = some a' ∧ R a a' := by
  induction h generalizing i with
  | nil => simp at hi
  | cons hab _ ih =>
      cases i with
      | zero =>
          obtain rfl : _ = a := by simpa using hi
          exact ⟨_, rfl, hab⟩
      | succ i => exact ih hi

/-- A list in which one element is put in the place of another, for everything that is collected
from its elements. -/
theorem flatMap_exchange_perm {α γ : Type} (f : α → List γ) {l : List α} {i : Nat} {a a' : α}
    (hi : l[i]? = some a) : (f a ++ (l.set i a').flatMap f).Perm (f a' ++ l.flatMap f) := by
  induction l generalizing i with
  | nil => simp at hi
  | cons x l ih =>
      cases i with
      | zero =>
          obtain rfl : x = a := by simpa using hi
          exact List.perm_append_comm_assoc ..
      | succ i =>
          show (f a ++ (f x ++ (l.set i a').flatMap f)).Perm (f a' ++ (f x ++ l.flatMap f))
          exact (List.perm_append_comm_assoc ..).trans
            (((ih (by simpa using hi)).append_left _).trans (List.perm_append_comm_assoc ..))

/-- If more is collected from the new element, so much more is collected from the list. -/
theorem flatMap_set_perm {α γ : Type} (f : α → List γ) {l : List α} {i : Nat} {a a' : α}
    (hi : l[i]? = some a) {more : List γ} (hmore : f a' = f a ++ more) :
    ((l.set i a').flatMap f).Perm (l.flatMap f ++ more) := by
  have hexchange : (f a ++ (l.set i a').flatMap f).Perm (f a' ++ l.flatMap f) :=
    flatMap_exchange_perm f hi
  rw [hmore, List.append_assoc] at hexchange
  exact ((List.perm_append_left_iff _).mp hexchange).trans List.perm_append_comm

/-! ### Slots -/

/-- Whether a unit has not started. -/
def Slot.isWaiting : Slot A β → Bool
  | waiting _ => true
  | _ => false

/-- The result of a unit that has ended. -/
def Slot.result? : Slot A β → Option β
  | finished result => result
  | _ => none

/-- What room in a pool does to a unit: it stays as it is, or it starts if it waits. -/
inductive Slot.Starts : Slot A β → Slot A β → Prop
  | stays (slot : Slot A β) : Starts slot slot
  | starts (work : Program A (Option β)) : Starts (.waiting work) (.running work)

/-- A unit that is in flight keeps what it has left to do. -/
theorem Slot.Starts.of_running {slot : Slot A β} {work : Program A (Option β)}
    (h : Slot.Starts (.running work) slot) : slot = .running work := by
  cases h
  rfl

/-- Room gives no results. -/
theorem Slot.Starts.result?_eq {slot slot' : Slot A β} (h : slot.Starts slot') :
    slot'.result? = slot.result? := by
  cases h <;> rfl

/-- Room ends no unit. -/
theorem Slot.Starts.isFinished_eq {slot slot' : Slot A β} (h : slot.Starts slot') :
    slot'.isFinished = slot.isFinished := by
  cases h <;> rfl

/-- A unit is in flight exactly when it has something left to do. -/
theorem Slot.isRunning_iff {slot : Slot A β} :
    slot.isRunning = true ↔ ∃ work, slot = .running work := by
  cases slot <;> simp [Slot.isRunning]

namespace Batch

/-! ### Room for units that wait -/

/-- Room lets some units start and changes no others. -/
theorem forall₂_startSlots (room position : Nat) (slots : List (Slot A β)) :
    List.Forall₂ Slot.Starts slots (startSlots room position slots).1 := by
  induction slots generalizing room position with
  | nil => exact .nil
  | cons slot slots ih =>
      cases slot with
      | waiting work =>
          cases room with
          | zero => exact .cons (.stays _) (ih 0 (position + 1))
          | succ room => exact .cons (.starts work) (ih room (position + 1))
      | running work => exact .cons (.stays _) (ih room (position + 1))
      | finished result => exact .cons (.stays _) (ih room (position + 1))

/-- As many units start as there is room for, or else all that wait. -/
theorem countP_startSlots (room position : Nat) (slots : List (Slot A β)) :
    (startSlots room position slots).1.countP Slot.isRunning
        = slots.countP Slot.isRunning + min room (slots.countP Slot.isWaiting)
      ∧ (startSlots room position slots).1.countP Slot.isWaiting
        = slots.countP Slot.isWaiting - room := by
  induction slots generalizing room position with
  | nil => simp [startSlots]
  | cons slot slots ih =>
      cases slot with
      | waiting work =>
          cases room with
          | zero =>
              obtain ⟨hrunning, hwaiting⟩ := ih 0 (position + 1)
              simp only [startSlots, List.countP_cons, Slot.isRunning, Slot.isWaiting, hrunning,
                hwaiting]
              simp
          | succ room =>
              -- One unit moves from those that wait to those in flight, and takes room.
              obtain ⟨hrunning, hwaiting⟩ := ih room (position + 1)
              simp only [startSlots, List.countP_cons, Slot.isRunning, Slot.isWaiting, hrunning,
                hwaiting]
              simp
              omega
      | running work =>
          obtain ⟨hrunning, hwaiting⟩ := ih room (position + 1)
          simp only [startSlots, List.countP_cons, Slot.isRunning, Slot.isWaiting, hrunning,
            hwaiting]
          simp
          omega
      | finished result =>
          obtain ⟨hrunning, hwaiting⟩ := ih room (position + 1)
          simp only [startSlots, List.countP_cons, Slot.isRunning, Slot.isWaiting, hrunning,
            hwaiting]
          simp

/-- Without room, or without units that wait, nothing starts. -/
theorem startSlots_eq_self {room position : Nat} {slots : List (Slot A β)}
    (h : room = 0 ∨ slots.countP Slot.isWaiting = 0) :
    startSlots room position slots = (slots, []) := by
  induction slots generalizing position with
  | nil => rfl
  | cons slot slots ih =>
      cases slot with
      | waiting work =>
          -- A unit that waits leaves only the first case.
          obtain rfl : room = 0 := by
            rcases h with h | h
            · exact h
            · simp [Slot.isWaiting] at h
          simp only [startSlots, ih (.inl rfl)]
      | running work =>
          have hrest : room = 0 ∨ slots.countP Slot.isWaiting = 0 :=
            h.imp_right fun h => by simpa [List.countP_cons, Slot.isWaiting] using h
          simp only [startSlots, ih hrest]
      | finished result =>
          have hrest : room = 0 ∨ slots.countP Slot.isWaiting = 0 :=
            h.imp_right fun h => by simpa [List.countP_cons, Slot.isWaiting] using h
          simp only [startSlots, ih hrest]

/-- The positions that are named are in increasing order. -/
theorem pairwise_startSlots (room position : Nat) (slots : List (Slot A β)) :
    (startSlots room position slots).2.Pairwise (· < ·)
      ∧ ∀ i ∈ (startSlots room position slots).2, position ≤ i := by
  induction slots generalizing room position with
  | nil => simp [startSlots]
  | cons slot slots ih =>
      have hlater : ∀ room, (startSlots room (position + 1) slots).2.Pairwise (· < ·)
          ∧ ∀ i ∈ (startSlots room (position + 1) slots).2, position ≤ i :=
        fun room => ⟨(ih room _).1, fun i hi => Nat.le_of_succ_le ((ih room _).2 i hi)⟩
      cases slot with
      | waiting work =>
          cases room with
          | zero => exact hlater 0
          | succ room =>
              obtain ⟨hsorted, hle⟩ := hlater room
              refine ⟨List.pairwise_cons.mpr ⟨fun i hi => ?_, hsorted⟩, fun i hi => ?_⟩
              · exact (ih room (position + 1)).2 i hi
              · rcases List.mem_cons.mp hi with rfl | hi
                · exact Nat.le_refl i
                · exact hle i hi
      | running work => exact hlater room
      | finished result => exact hlater room

/-- The positions that are named are those of the units that have started. -/
theorem mem_startSlots (room position i : Nat) (slots : List (Slot A β)) :
    position + i ∈ (startSlots room position slots).2
      ↔ slots[i]?.any Slot.isWaiting
        ∧ (startSlots room position slots).1[i]?.any Slot.isRunning := by
  induction slots generalizing room position i with
  | nil => simp [startSlots]
  | cons slot slots ih =>
      -- All later positions are greater, so the first one is named for its own unit only.
      have hlater : ∀ room, position ∉ (startSlots room (position + 1) slots).2 := by
        intro room hmem
        have hle := (pairwise_startSlots room (position + 1) slots).2 position hmem
        omega
      cases i with
      | zero =>
          cases slot with
          | waiting work =>
              cases room <;> simp [startSlots, hlater, Slot.isWaiting, Slot.isRunning]
          | running work => simp [startSlots, hlater, Slot.isWaiting]
          | finished result => simp [startSlots, hlater, Slot.isWaiting]
      | succ i =>
          have hi : position + (i + 1) = position + 1 + i := by omega
          cases slot with
          | waiting work =>
              cases room with
              | zero => simpa [startSlots, hi] using ih 0 (position + 1) i
              | succ room =>
                  have hne : position + 1 + i ≠ position := by omega
                  simpa [startSlots, hi, hne] using ih room (position + 1) i
          | running work => simpa [startSlots, hi] using ih room (position + 1) i
          | finished result => simpa [startSlots, hi] using ih room (position + 1) i

/-- A unit in flight can go on while others start or not: room does not look at what it does. -/
theorem startSlots_set_running (room position i : Nat) {slots : List (Slot A β)}
    (hi : slots[i]?.any Slot.isRunning) (work : Program A (Option β)) :
    (startSlots room position (slots.set i (.running work))).1
      = (startSlots room position slots).1.set i (.running work) := by
  induction slots generalizing room position i with
  | nil => rfl
  | cons slot slots ih =>
      cases i with
      | zero =>
          cases slot with
          | waiting work => simp [Slot.isRunning] at hi
          | running work => rfl
          | finished result => simp [Slot.isRunning] at hi
      | succ i =>
          have hi' : slots[i]?.any Slot.isRunning := by simpa using hi
          cases slot with
          | waiting work =>
              cases room with
              | zero => simpa [startSlots] using ih 0 (position + 1) i hi'
              | succ room => simpa [startSlots] using ih room (position + 1) i hi'
          | running work => simpa [startSlots] using ih room (position + 1) i hi'
          | finished result => simpa [startSlots] using ih room (position + 1) i hi'

/-- Nothing starts in the batch, for lack of room or of units that wait. -/
def Filled (width : Nat) (b : Batch A β) : Prop :=
  (b.fill width).1.slots = b.slots

variable {b : Batch A β} {width : Nat}

/-- To fill a batch is to start some of its units. -/
theorem forall₂_fill (width : Nat) (b : Batch A β) :
    List.Forall₂ Slot.Starts b.slots (b.fill width).1.slots :=
  forall₂_startSlots ..

/-- To fill a batch gives no results. -/
@[simp] theorem results_fill (width : Nat) (b : Batch A β) :
    (b.fill width).1.results = b.results := rfl

/-- A filled batch is its own filling. -/
theorem Filled.fill_eq (hb : b.Filled width) : (b.fill width).1 = b := by
  show { (b.fill width).1 with slots := (b.fill width).1.slots } = b
  rw [show (b.fill width).1.slots = b.slots from hb]
  rfl

/-- A batch that has been filled is filled. -/
theorem filled_fill (width : Nat) (b : Batch A β) : (b.fill width).1.Filled width := by
  obtain ⟨hrunning, hwaiting⟩ := countP_startSlots (width - b.inFlight) 0 b.slots
  -- Either the room is used up, or no unit waits any longer.
  have hnone : width - (b.fill width).1.inFlight = 0
      ∨ (b.fill width).1.slots.countP Slot.isWaiting = 0 := by
    show width - List.countP _ (startSlots (width - b.inFlight) 0 b.slots).1 = 0
      ∨ List.countP _ (startSlots (width - b.inFlight) 0 b.slots).1 = 0
    rw [hrunning, hwaiting]
    show width - (b.inFlight + _) = 0 ∨ _
    omega
  show (startSlots (width - (b.fill width).1.inFlight) 0 (b.fill width).1.slots).1 = _
  rw [startSlots_eq_self hnone]

/-- A unit that goes on stays in flight. -/
theorem inFlight_goOn {i : Nat} {old : Program A (Option β)}
    (hi : b.slots[i]? = some (.running old)) (work : Program A (Option β)) :
    (b.goOn i work).inFlight = b.inFlight := by
  obtain ⟨hlt, hget⟩ := List.getElem?_eq_some_iff.mp hi
  have hpos : 0 < b.slots.countP Slot.isRunning :=
    List.countP_pos_iff.mpr ⟨_, List.mem_of_getElem? hi, rfl⟩
  show (b.slots.set i (.running work)).countP Slot.isRunning = b.slots.countP Slot.isRunning
  rw [List.countP_set hlt, hget]
  simp only [Slot.isRunning, if_true]
  omega

/-- A filled batch stays filled while a unit in flight goes on. -/
theorem Filled.goOn (hb : b.Filled width) {i : Nat} {old : Program A (Option β)}
    (hi : b.slots[i]? = some (.running old)) (work : Program A (Option β)) :
    (b.goOn i work).Filled width := by
  have hany : b.slots[i]?.any Slot.isRunning := by rw [hi]; rfl
  -- As many units are in flight as before, so the room is the same.
  show (startSlots (width - (b.goOn i work).inFlight) 0 (b.slots.set i (.running work))).1
    = b.slots.set i (.running work)
  rw [inFlight_goOn hi, startSlots_set_running _ _ _ hany]
  exact congrArg (·.set i (.running work)) hb

/-- In a filled batch with units that have not ended, some unit is in flight. -/
theorem Filled.exists_running (hb : b.Filled width) (hwidth : 0 < width)
    (h : b.isFinished = false) :
    ∃ (i : Nat) (work : Program A (Option β)), b.slots[i]? = some (.running work) := by
  by_contra hnone
  have hrunning : b.inFlight = 0 := by
    refine List.countP_eq_zero.mpr fun slot hslot hrun => hnone ?_
    obtain ⟨work, rfl⟩ := Slot.isRunning_iff.mp hrun
    obtain ⟨i, hi⟩ := List.mem_iff_getElem?.mp hslot
    exact ⟨i, work, hi⟩
  -- With all the room there is, a filled batch has no unit that waits.
  have hwaiting : b.slots.countP Slot.isWaiting = 0 := by
    have hcount := (countP_startSlots (width - b.inFlight) 0 b.slots).2
    rw [show (startSlots (width - b.inFlight) 0 b.slots).1 = b.slots from hb, hrunning] at hcount
    omega
  have hall : b.isFinished = true := by
    refine List.all_eq_true.mpr fun slot hslot => ?_
    have hrun := List.countP_eq_zero.mp hrunning slot hslot
    have hwait := List.countP_eq_zero.mp hwaiting slot hslot
    cases slot with
    | waiting work => exact absurd rfl hwait
    | running work => exact absurd rfl hrun
    | finished result => rfl
  rw [hall] at h
  exact absurd h (by decide)

/-- A filled batch with no unit in flight has ended. -/
theorem Filled.isFinished_of_idle (hb : b.Filled width) (hwidth : 0 < width)
    (hidle : ∀ i : Nat, ¬b.slots[i]?.any Slot.isRunning = true) : b.isFinished = true := by
  by_contra hend
  obtain ⟨i, work, hi⟩ := hb.exists_running hwidth (by simpa using hend)
  refine hidle i ?_
  rw [hi]
  rfl

/-- No unit is in flight when a batch begins. -/
theorem not_isRunning_ofWork (work : List (Program A (Option β))) (i : Nat) :
    ¬(ofWork work).slots[i]?.any Slot.isRunning = true := by
  intro hrunning
  obtain ⟨slot, hslot, hrun⟩ := (Option.any_eq_true _ _).mp hrunning
  obtain ⟨u, -, rfl⟩ := List.mem_map.mp (List.mem_of_getElem? hslot)
  exact absurd hrun (by simp [Slot.isRunning])

/-! ### Turns -/

/-- A turn of the unit at a position: one step of it, and then others start if there is room. -/
def turn (answers : Program.Answers A σ) (width position : Nat) (b : Batch A β) :
    StateT σ Reported (Batch A β) := do
  let b ← b.advance answers position
  return (b.fill width).1

/-- The batch and the state after turns in some order. -/
def follow (answers : Program.Answers A σ) (width : Nat) (order : List Nat) (x : Batch A β × σ) :
    Batch A β × σ :=
  order.foldl (fun x position => ((x.1.turn answers width position).run x.2).value) x

variable {answers : Program.Answers A σ}

/-- Without turns nothing changes. -/
@[simp] theorem follow_nil (x : Batch A β × σ) : follow answers width [] x = x := rfl

/-- An order goes on after its first turn. -/
@[simp] theorem follow_cons (position : Nat) (order : List Nat) (x : Batch A β × σ) :
    follow answers width (position :: order) x
      = follow answers width order ((x.1.turn answers width position).run x.2).value := rfl

/-- Two orders, one after the other. -/
theorem follow_append (order order' : List Nat) (x : Batch A β × σ) :
    follow answers width (order ++ order') x
      = follow answers width order' (follow answers width order x) :=
  List.foldl_append ..

/-- A turn of a unit that is not in flight changes nothing. -/
theorem turn_idle (hb : b.Filled width) (answers : Program.Answers A σ) {i : Nat}
    (hi : b.slots[i]?.any Slot.isRunning = false) (s : σ) :
    ((b.turn answers width i).run s).value = (b, s) := by
  have hadvance : b.advance answers i = pure b := by
    rw [advance]
    split
    · next h => rw [h] at hi; exact absurd hi (by simp [Slot.isRunning])
    · next h => rw [h] at hi; exact absurd hi (by simp [Slot.isRunning])
    · rfl
  rw [turn, hadvance]
  show ((b.fill width).1, s) = (b, s)
  rw [hb.fill_eq]

/-- A turn of a unit with nothing left to do ends it. -/
theorem turn_done (answers : Program.Answers A σ) {i : Nat} {result : Option β}
    (hi : b.slots[i]? = some (.running (.done result))) (s : σ) :
    ((b.turn answers width i).run s).value = (((b.finish i result).fill width).1, s) := by
  rw [turn, advance, hi]
  rfl

/-- A turn of a unit with something left to do is one step of it. -/
theorem turn_step (hb : b.Filled width) (answers : Program.Answers A σ) {i : Nat}
    {work : Program A (Option β)} (hi : b.slots[i]? = some (.running work))
    (hwork : ∀ result, work ≠ .done result) (s : σ) :
    ((b.turn answers width i).run s).value
      = (b.goOn i ((work.step answers).run s).value.1, ((work.step answers).run s).value.2) := by
  have hadvance : b.advance answers i = do return b.goOn i (← work.step answers) := by
    rw [advance, hi]
    cases work with
    | done result => exact absurd rfl (hwork result)
    | note n next => rfl
    | rest next => rfl
    | ask q next => rfl
  have hfill := (hb.goOn hi ((work.step answers).run s).value.1).fill_eq
  rw [turn, hadvance]
  show (((b.goOn i ((work.step answers).run s).value.1).fill width).1, _) = _
  rw [hfill]
  rfl

/-- All that a turn can do to a filled batch: nothing, if the unit is not in flight; else end the
unit, or make one step of it. -/
theorem turn_cases (hb : b.Filled width) (answers : Program.Answers A σ) (i : Nat) (s : σ) :
    (b.slots[i]?.any Slot.isRunning = false
        ∧ ((b.turn answers width i).run s).value = (b, s))
      ∨ (∃ result, b.slots[i]? = some (.running (.done result))
        ∧ ((b.turn answers width i).run s).value = (((b.finish i result).fill width).1, s))
      ∨ ∃ work, b.slots[i]? = some (.running work) ∧ (∀ result, work ≠ .done result)
        ∧ ((b.turn answers width i).run s).value
          = (b.goOn i ((work.step answers).run s).value.1,
              ((work.step answers).run s).value.2) := by
  by_cases hi : b.slots[i]?.any Slot.isRunning
  · obtain ⟨slot, hslot, hrunning⟩ := (Option.any_eq_true _ _).mp hi
    obtain ⟨work, rfl⟩ := Slot.isRunning_iff.mp hrunning
    by_cases hdone : ∃ result, work = .done result
    · obtain ⟨result, rfl⟩ := hdone
      exact .inr (.inl ⟨result, hslot, turn_done answers hslot s⟩)
    · have hwork : ∀ result, work ≠ .done result := fun result h => hdone ⟨result, h⟩
      exact .inr (.inr ⟨work, hslot, hwork, turn_step hb answers hslot hwork s⟩)
  · have hidle : b.slots[i]?.any Slot.isRunning = false := by simpa using hi
    exact .inl ⟨hidle, turn_idle hb answers hidle s⟩

/-- A batch stays filled turn after turn. -/
theorem Filled.turn (hb : b.Filled width) (answers : Program.Answers A σ) (i : Nat) (s : σ) :
    ((b.turn answers width i).run s).value.1.Filled width := by
  obtain ⟨-, h⟩ | ⟨result, -, h⟩ | ⟨work, hwork, -, h⟩ := turn_cases hb answers i s
  · rw [h]
    exact hb
  · rw [h]
    exact filled_fill ..
  · rw [h]
    exact hb.goOn hwork _

/-- To fill a batch keeps to its width. -/
theorem inFlight_fill_le (hb : b.inFlight ≤ width) : (b.fill width).1.inFlight ≤ width := by
  have hrunning := (countP_startSlots (width - b.inFlight) 0 b.slots).1
  change (b.fill width).1.inFlight = b.inFlight + _ at hrunning
  omega

/-- A turn keeps to the width of a batch: a unit that starts has room. -/
theorem inFlight_turn_le (hfilled : b.Filled width) (hb : b.inFlight ≤ width)
    (answers : Program.Answers A σ) (i : Nat) (s : σ) :
    ((b.turn answers width i).run s).value.1.inFlight ≤ width := by
  obtain ⟨-, h⟩ | ⟨result, hi, h⟩ | ⟨work, hi, -, h⟩ := turn_cases hfilled answers i s
  · rw [h]
    exact hb
  · rw [h]
    refine inFlight_fill_le (Nat.le_trans ?_ hb)
    obtain ⟨hlt, -⟩ := List.getElem?_eq_some_iff.mp hi
    show (b.slots.set i (.finished result)).countP Slot.isRunning ≤ b.slots.countP Slot.isRunning
    rw [List.countP_set hlt]
    simp [Slot.isRunning]
  · rw [h]
    exact Nat.le_trans (Nat.le_of_eq (inFlight_goOn hi _)) hb

/-- Each unit in flight has one position. -/
theorem length_running (b : Batch A β) : b.running.length = b.inFlight := by
  have hcount : ∀ slots : List (Slot A β),
      (List.range slots.length).countP (fun i => slots[i]?.any Slot.isRunning)
        = slots.countP Slot.isRunning := by
    intro slots
    induction slots with
    | nil => rfl
    | cons slot slots ih =>
        rw [List.length_cons, List.range_succ_eq_map, List.countP_cons, List.countP_map,
          List.countP_cons, ← ih]
        rfl
  rw [running, ← List.countP_eq_length_filter]
  exact hcount b.slots

/-- The positions in flight are those of the units in flight. -/
theorem mem_running {i : Nat} : i ∈ b.running ↔ b.slots[i]?.any Slot.isRunning = true := by
  refine List.mem_filter.trans (and_iff_right_of_imp fun hrunning => List.mem_range.mpr ?_)
  obtain ⟨slot, hslot, -⟩ := (Option.any_eq_true _ _).mp hrunning
  exact (List.getElem?_eq_some_iff.mp hslot).1

/-- Whatever starts, a unit in flight keeps what it has left to do. -/
theorem fill_of_running (width : Nat) {i : Nat} {work : Program A (Option β)}
    (hi : b.slots[i]? = some (.running work)) :
    (b.fill width).1.slots[i]? = some (.running work) := by
  obtain ⟨slot, hslot, hstarts⟩ := exists_getElem?_of_forall₂ (forall₂_fill width b) hi
  rw [hslot, hstarts.of_running]

/-- A turn of one unit leaves what another one in flight has left to do. -/
theorem turn_of_ne (hb : b.Filled width) (answers : Program.Answers A σ) {i j : Nat} (hne : j ≠ i)
    {work : Program A (Option β)} (hi : b.slots[i]? = some (.running work)) (s : σ) :
    ((b.turn answers width j).run s).value.1.slots[i]? = some (.running work) := by
  obtain ⟨-, h⟩ | ⟨result, -, h⟩ | ⟨other, -, -, h⟩ := turn_cases hb answers j s
  · rw [h]
    exact hi
  · rw [h]
    refine fill_of_running width ?_
    show (b.slots.set j _)[i]? = _
    rw [List.getElem?_set_ne hne, hi]
  · rw [h]
    show (b.slots.set j _)[i]? = _
    rw [List.getElem?_set_ne hne, hi]

/-! ### Every batch ends -/

/-- The number of units that have not ended. -/
def unfinished (b : Batch A β) : Nat :=
  b.slots.countP fun slot => !slot.isFinished

/-- Starting units ends none. -/
@[simp] theorem unfinished_fill (width : Nat) (b : Batch A β) :
    (b.fill width).1.unfinished = b.unfinished := by
  show List.countP _ (b.fill width).1.slots = List.countP _ b.slots
  have h := forall₂_fill width b
  generalize (b.fill width).1.slots = slots' at h ⊢
  generalize b.slots = slots at h ⊢
  induction h with
  | nil => rfl
  | cons hstarts _ ih => rw [List.countP_cons, List.countP_cons, ih, hstarts.isFinished_eq]

/-- A unit that ends is one less that has not. -/
theorem unfinished_finish {i : Nat} {work : Program A (Option β)}
    (hi : b.slots[i]? = some (.running work)) (result : Option β) :
    (b.finish i result).unfinished + 1 = b.unfinished := by
  obtain ⟨hlt, hget⟩ := List.getElem?_eq_some_iff.mp hi
  have hpos : 0 < b.unfinished := List.countP_pos_iff.mpr ⟨_, List.mem_of_getElem? hi, rfl⟩
  have hset : (b.finish i result).unfinished = b.unfinished - 1 := by
    show (b.slots.set i (.finished result)).countP _ = _
    rw [List.countP_set hlt, hget]
    rfl
  omega

/-- A unit that goes on has not ended. -/
theorem unfinished_goOn {i : Nat} {work : Program A (Option β)}
    (hi : b.slots[i]? = some (.running work)) (next : Program A (Option β)) :
    (b.goOn i next).unfinished = b.unfinished := by
  obtain ⟨hlt, hget⟩ := List.getElem?_eq_some_iff.mp hi
  have hpos : 0 < b.unfinished := List.countP_pos_iff.mpr ⟨_, List.mem_of_getElem? hi, rfl⟩
  have hset : (b.goOn i next).unfinished = b.unfinished - 1 + 1 := by
    show (b.slots.set i (.running next)).countP _ = _
    rw [List.countP_set hlt, hget]
    rfl
  omega

end Batch

/-- An order in which each position gets turn after turn. -/
def Fair (order : Nat → Nat) : Prop :=
  ∀ position t, ∃ t', t ≤ t' ∧ order t' = position

/-- There is such an order. -/
theorem fair_unpair : Fair fun t => t.unpair.1 := by
  intro position t
  refine ⟨Nat.pair position t, Nat.right_le_pair position t, ?_⟩
  show (Nat.pair position t).unpair.1 = position
  rw [Nat.unpair_pair]

namespace Batch

variable {width : Nat} {answers : Program.Answers A σ} {order : Nat → Nat} {b : Nat → Batch A β}

/-- A batch goes through these stages if each of them is a turn after the one before, in any state:
what happens between two turns is left open. -/
structure GoesThrough (answers : Program.Answers A σ) (width : Nat) (order : Nat → Nat)
    (b : Nat → Batch A β) : Prop where
  filled : (b 0).Filled width
  turns : ∀ t, ∃ s, b (t + 1) = (((b t).turn answers width (order t)).run s).value.1

namespace GoesThrough

/-- At every stage the batch is filled. -/
theorem filled_at (h : GoesThrough answers width order b) (t : Nat) : (b t).Filled width := by
  induction t with
  | zero => exact h.filled
  | succ t ih =>
      obtain ⟨s, hs⟩ := h.turns t
      rw [hs]
      exact ih.turn ..

/-- Units that have ended stay so. -/
theorem unfinished_succ_le (h : GoesThrough answers width order b) (t : Nat) :
    (b (t + 1)).unfinished ≤ (b t).unfinished := by
  obtain ⟨s, hs⟩ := h.turns t
  rw [hs]
  obtain ⟨-, h'⟩ | ⟨result, hresult, h'⟩ | ⟨work, hwork, -, h'⟩ :=
    turn_cases (h.filled_at t) answers (order t) s
  · rw [h']
  · have hless := unfinished_finish hresult result
    rw [h', unfinished_fill]
    omega
  · rw [h', unfinished_goOn hwork]

/-- A unit in flight gets a turn, and stays as it is up to then. -/
theorem exists_turn (h : GoesThrough answers width order b) (hfair : Fair order) {i t : Nat}
    {work : Program A (Option β)} (hi : (b t).slots[i]? = some (.running work)) :
    ∃ t', order t' = i ∧ (b t').slots[i]? = some (.running work)
      ∧ (b t').unfinished ≤ (b t).unfinished := by
  obtain ⟨t₀, hle, hd⟩ := hfair i t
  obtain ⟨d, rfl⟩ := Nat.exists_eq_add_of_le hle
  clear hle
  -- By the number of turns up to that one, all of other units but the last.
  induction d generalizing t with
  | zero => exact ⟨t, hd, hi, Nat.le_refl _⟩
  | succ d ih =>
      by_cases hnow : order t = i
      · exact ⟨t, hnow, hi, Nat.le_refl _⟩
      · have hnext : (b (t + 1)).slots[i]? = some (.running work) := by
          obtain ⟨s, hs⟩ := h.turns t
          rw [hs]
          exact turn_of_ne (h.filled_at t) answers hnow hi s
        have hd' : order (t + 1 + d) = i := by rw [← hd]; congr 1; omega
        obtain ⟨t', hturn, hslot, hcount⟩ := ih hnext hd'
        exact ⟨t', hturn, hslot, hcount.trans (h.unfinished_succ_le t)⟩

/-- A unit in flight ends. The induction is on what it has left to do, which each of its turns makes
smaller. -/
theorem exists_fewer (h : GoesThrough answers width order b) (hfair : Fair order) {i : Nat}
    {work : Program A (Option β)} {t : Nat} (hi : (b t).slots[i]? = some (.running work)) :
    ∃ t', (b t').unfinished < (b t).unfinished := by
  -- The turn in which the unit goes on, and what it has left to do after it.
  have hturn : ∀ {t} {work : Program A (Option β)}, (b t).slots[i]? = some (.running work) →
      (∀ result, work ≠ .done result) → ∃ t' s, (b t').unfinished ≤ (b t).unfinished
        ∧ (b t').slots[i]? = some (.running ((work.step answers).run s).value.1) := by
    intro t work hi hwork
    obtain ⟨t', ht', hslot, hcount⟩ := h.exists_turn hfair hi
    obtain ⟨s, hs⟩ := h.turns t'
    rw [ht', turn_step (h.filled_at t') answers hslot hwork s] at hs
    refine ⟨t' + 1, s, (h.unfinished_succ_le t').trans hcount, ?_⟩
    rw [hs]
    exact List.getElem?_set_self (List.getElem?_eq_some_iff.mp hslot).1
  induction work generalizing t with
  | done result =>
      obtain ⟨t', ht', hslot, hcount⟩ := h.exists_turn hfair hi
      obtain ⟨s, hs⟩ := h.turns t'
      rw [ht', turn_done answers hslot s] at hs
      have hless := unfinished_finish hslot result
      refine ⟨t' + 1, ?_⟩
      rw [hs, unfinished_fill]
      omega
  | note n next ih =>
      obtain ⟨t', s, hcount, hslot⟩ := hturn hi (by simp)
      obtain ⟨t'', hless⟩ := ih hslot
      exact ⟨t'', by omega⟩
  | rest next ih =>
      obtain ⟨t', s, hcount, hslot⟩ := hturn hi (by simp)
      obtain ⟨t'', hless⟩ := ih hslot
      exact ⟨t'', by omega⟩
  | ask q next ih =>
      obtain ⟨t', s, hcount, hslot⟩ := hturn hi (by simp)
      obtain ⟨t'', hless⟩ := ih _ hslot
      exact ⟨t'', by omega⟩

/-- If each position gets turn after turn, the batch ends. -/
theorem exists_isFinished (h : GoesThrough answers width order b) (hwidth : 0 < width)
    (hfair : Fair order) : ∃ t, (b t).isFinished = true := by
  -- By the number of units that have not ended at some stage.
  have hmain : ∀ n t, (b t).unfinished ≤ n → ∃ t', (b t').isFinished = true := by
    intro n
    induction n with
    | zero =>
        intro t ht
        refine ⟨t, List.all_eq_true.mpr fun slot hslot => ?_⟩
        have hnone := List.countP_eq_zero.mp (Nat.le_zero.mp ht) slot hslot
        simpa using hnone
    | succ n ih =>
        intro t ht
        cases hend : (b t).isFinished with
        | true => exact ⟨t, hend⟩
        | false =>
            obtain ⟨i, work, hi⟩ := (h.filled_at t).exists_running hwidth hend
            obtain ⟨t', hless⟩ := h.exists_fewer hfair hi
            exact ih t' (by omega)
  exact hmain _ 0 (Nat.le_refl _)

end GoesThrough

/-! ### The results -/

section Results

variable {width : Nat} {answers : Program.Answers A σ} {b : Batch A β}

/-- The results so far are those of the ended units, in some order. -/
def Accounted (b : Batch A β) : Prop :=
  b.results.Perm (b.slots.filterMap Slot.result?)

/-- A batch that begins has no results. -/
theorem accounted_ofWork (work : List (Program A (Option β))) : (ofWork work).Accounted := by
  have hnone : ((ofWork work).slots.filterMap Slot.result? : List β) = [] := by
    refine List.filterMap_eq_nil_iff.mpr fun slot hslot => ?_
    obtain ⟨u, -, rfl⟩ := List.mem_map.mp hslot
    rfl
  show ([] : List β).Perm _
  rw [hnone]

/-- Starting units changes no result. -/
theorem Accounted.fill (hb : b.Accounted) (width : Nat) : (b.fill width).1.Accounted := by
  have hsame : (b.fill width).1.slots.filterMap Slot.result? = b.slots.filterMap Slot.result? := by
    have h := forall₂_fill width b
    generalize (b.fill width).1.slots = slots' at h ⊢
    generalize b.slots = slots at h ⊢
    induction h with
    | nil => rfl
    | cons hstarts _ ih => rw [List.filterMap_cons, List.filterMap_cons, ih, hstarts.result?_eq]
  show b.results.Perm _
  rw [hsame]
  exact hb

/-- A turn adds the result of the unit that it ends, if it ends one. -/
theorem Accounted.turn (hb : b.Accounted) (hfilled : b.Filled width)
    (answers : Program.Answers A σ) (i : Nat) (s : σ) :
    ((b.turn answers width i).run s).value.1.Accounted := by
  have hset : ∀ {work : Program A (Option β)} (slot : Slot A β),
      b.slots[i]? = some (.running work) →
      ((b.slots.set i slot).filterMap Slot.result?).Perm
        (b.slots.filterMap Slot.result? ++ slot.result?.toList) := by
    intro work slot hi
    rw [List.filterMap_eq_flatMap_toList, List.filterMap_eq_flatMap_toList]
    exact flatMap_set_perm _ hi rfl
  obtain ⟨-, h⟩ | ⟨result, hi, h⟩ | ⟨work, hi, -, h⟩ := turn_cases hfilled answers i s
  · rw [h]
    exact hb
  · rw [h]
    refine Accounted.fill ?_ width
    exact (hb.append_right _).trans (hset (.finished result) hi).symm
  · rw [h]
    have hnone := hset (.running ((work.step answers).run s).value.1) hi
    rw [show (Slot.running _ : Slot A β).result?.toList = [] from rfl, List.append_nil] at hnone
    exact hb.trans hnone.symm

/-- Every order of turns keeps a batch filled, and its results accounted for. -/
theorem follow_keeps {x : Batch A β × σ} (hfilled : x.1.Filled width) (hx : x.1.Accounted)
    (order : List Nat) :
    (follow answers width order x).1.Filled width
      ∧ (follow answers width order x).1.Accounted := by
  induction order generalizing x with
  | nil => exact ⟨hfilled, hx⟩
  | cons i order ih => exact ih (hfilled.turn ..) (hx.turn hfilled ..)

/-- When a batch has ended, turns change nothing. -/
theorem follow_of_isFinished {x : Batch A β × σ} (hfilled : x.1.Filled width)
    (hx : x.1.isFinished = true) (order : List Nat) : follow answers width order x = x := by
  induction order with
  | nil => rfl
  | cons i order ih =>
      have hidle : x.1.slots[i]?.any Slot.isRunning = false := by
        cases hslot : x.1.slots[i]? with
        | none => rfl
        | some slot =>
            have hend := List.all_eq_true.mp hx slot (List.mem_of_getElem? hslot)
            cases slot with
            | waiting work => exact absurd hend (by simp [Slot.isFinished])
            | running work => exact absurd hend (by simp [Slot.isFinished])
            | finished result => rfl
      rw [follow_cons, turn_idle hfilled answers hidle]
      exact ih

end Results

/-! ### The order of the pool -/

section Order

variable {width : Nat} {answers : Program.Answers A σ} {b : Batch A β}

/-- No unit of the batch rests in what it has left to do. -/
def Restless (b : Batch A β) : Prop :=
  ∀ slot ∈ b.slots, ∀ work, slot = .waiting work ∨ slot = .running work → work.Restless

/-- A batch of units that never rest. -/
theorem restless_ofWork {work : List (Program A (Option β))} (h : ∀ u ∈ work, u.Restless) :
    (ofWork work).Restless := by
  intro slot hslot u hu
  obtain ⟨u', hu', rfl⟩ := List.mem_map.mp hslot
  rcases hu with hu | hu
  · cases hu
    exact h _ hu'
  · cases hu

/-- Starting units gives none a rest. -/
theorem Restless.fill (hb : b.Restless) (width : Nat) : (b.fill width).1.Restless := by
  have h := forall₂_fill width b
  intro slot hslot work hwork
  obtain ⟨i, hi⟩ := List.mem_iff_getElem?.mp hslot
  obtain ⟨slot', hslot', hstarts⟩ := exists_getElem?_of_forall₂ h.flip hi
  refine hb slot' (List.mem_of_getElem? hslot') work ?_
  cases hstarts with
  | stays => exact hwork
  | starts work' =>
      rcases hwork with hwork | hwork
      · cases hwork
      · cases hwork
        exact .inl rfl

/-- Ending a unit gives no other one a rest. -/
theorem Restless.finish (hb : b.Restless) (i : Nat) (result : Option β) :
    (b.finish i result).Restless := by
  intro slot hslot work hwork
  rcases List.mem_or_eq_of_mem_set hslot with hold | rfl
  · exact hb slot hold work hwork
  · rcases hwork with hwork | hwork <;> cases hwork

/-- The batch after the unit at a position has been polled: it has ended and makes room for others,
or it rests. -/
def afterPoll (width position : Nat) (b : Batch A β) :
    Option β ⊕ Program A (Option β) → Batch A β
  | .inl result => ((b.finish position result).fill width).1
  | .inr next => b.goOn position next

/-- What a unit has had left to do before makes no difference after the poll. -/
theorem afterPoll_goOn (width i : Nat) (b : Batch A β) (work : Program A (Option β))
    (polled : Option β ⊕ Program A (Option β)) :
    (b.goOn i work).afterPoll width i polled = b.afterPoll width i polled := by
  cases polled with
  | inl result =>
      show (Batch.fill width ⟨(b.slots.set i _).set i _, _⟩).1
        = (Batch.fill width ⟨b.slots.set i _, _⟩).1
      rw [List.set_set]
      rfl
  | inr next =>
      show (⟨(b.slots.set i _).set i _, _⟩ : Batch A β) = ⟨b.slots.set i _, _⟩
      rw [List.set_set]
      rfl

/-- A poll is turns of one unit, one after the other, until it ends or rests. The induction is on
what it has left to do. -/
theorem exists_follow_poll (answers : Program.Answers A σ) {work : Program A (Option β)} {i : Nat}
    {s : σ} (hfilled : b.Filled width) (hi : b.slots[i]? = some (.running work)) :
    ∃ order, follow answers width order (b, s)
      = (b.afterPoll width i ((work.poll answers).run s).value.1,
        ((work.poll answers).run s).value.2) := by
  -- A step that is no rest, and then the turns that poll what is left.
  have hstep : ∀ {b : Batch A β} {work next : Program A (Option β)} {s s' : σ}
      {polled : (Option β ⊕ Program A (Option β)) × σ}, b.Filled width →
      b.slots[i]? = some (.running work) → (∀ result, work ≠ .done result) →
      ((work.step answers).run s).value = (next, s') →
      (∃ order, follow answers width order (b.goOn i next, s')
        = ((b.goOn i next).afterPoll width i polled.1, polled.2)) →
      ∃ order, follow answers width order (b, s) = (b.afterPoll width i polled.1, polled.2) := by
    intro b work next s s' polled hfilled hi hwork hnext ⟨order, horder⟩
    refine ⟨i :: order, ?_⟩
    rw [follow_cons, turn_step hfilled answers hi hwork, hnext, horder, afterPoll_goOn]
  have hslot : ∀ {b : Batch A β} {work : Program A (Option β)} (next : Program A (Option β)),
      b.slots[i]? = some (.running work) → (b.goOn i next).slots[i]? = some (.running next) :=
    fun next hi => List.getElem?_set_self (List.getElem?_eq_some_iff.mp hi).1
  induction work generalizing b s with
  | done result => exact ⟨[i], turn_done answers hi s⟩
  | note n next ih =>
      exact hstep hfilled hi (by simp) rfl (ih (hfilled.goOn hi next) (hslot next hi))
  | rest next ih =>
      refine ⟨[i], ?_⟩
      rw [follow_cons, turn_step hfilled answers hi (by simp)]
      rfl
  | ask q next ih =>
      exact hstep hfilled hi (by simp) rfl (ih _ (hfilled.goOn hi _) (hslot _ hi))

/-- Turns of a unit that never rests, one after the other, run it to its end. -/
theorem exists_follow_run (answers : Program.Answers A σ) {work : Program A (Option β)}
    (hwork : work.Restless) {i : Nat} {s : σ} (hfilled : b.Filled width)
    (hi : b.slots[i]? = some (.running work)) :
    ∃ order, follow answers width order (b, s)
      = (((b.finish i ((work.run answers).run s).value.1).fill width).1,
        ((work.run answers).run s).value.2) := by
  have h := exists_follow_poll answers (s := s) hfilled hi
  rw [Program.poll_of_restless hwork] at h
  exact h

/-- The units in flight after a batch is filled are those from before and those that started. -/
theorem isRunning_fill_iff (width : Nat) (b : Batch A β) (i : Nat) :
    (b.fill width).1.slots[i]?.any Slot.isRunning = true
      ↔ b.slots[i]?.any Slot.isRunning = true ∨ i ∈ (b.fill width).2 := by
  have hstarted : i ∈ (b.fill width).2
      ↔ b.slots[i]?.any Slot.isWaiting ∧ (b.fill width).1.slots[i]?.any Slot.isRunning := by
    have h := mem_startSlots (width - b.inFlight) 0 i b.slots
    rw [Nat.zero_add] at h
    exact h
  rw [hstarted]
  constructor
  · intro hrunning
    -- Before, the unit was in flight as well, or it waited.
    obtain ⟨slot, hslot, hrun⟩ := (Option.any_eq_true _ _).mp hrunning
    obtain ⟨slot', hslot', hstarts⟩ := exists_getElem?_of_forall₂ (forall₂_fill width b).flip hslot
    cases hstarts with
    | stays => exact .inl ((Option.any_eq_true _ _).mpr ⟨_, hslot', hrun⟩)
    | starts work => exact .inr ⟨(Option.any_eq_true _ _).mpr ⟨_, hslot', rfl⟩, hrunning⟩
  · rintro (hrunning | ⟨-, hrunning⟩)
    · obtain ⟨slot, hslot, hrun⟩ := (Option.any_eq_true _ _).mp hrunning
      obtain ⟨work, rfl⟩ := Slot.isRunning_iff.mp hrun
      rw [fill_of_running width hslot]
      rfl
    · exact hrunning

/-- The units that start are named once, and none of them was in flight. -/
theorem nodup_append_fill {ready : List Nat} (width : Nat) (hready : ready.Nodup)
    (hmem : ∀ i, i ∈ ready ↔ b.slots[i]?.any Slot.isRunning = true) :
    (ready ++ (b.fill width).2).Nodup := by
  have hsorted : (b.fill width).2.Pairwise (· < ·) := (pairwise_startSlots _ 0 b.slots).1
  refine List.nodup_append.mpr ⟨hready, hsorted.imp fun h => Nat.ne_of_lt h, ?_⟩
  rintro i hi j hj rfl
  have hwaiting := (mem_startSlots (width - b.inFlight) 0 i b.slots).mp (by rwa [Nat.zero_add])
  obtain ⟨slot, hslot, hwait⟩ := (Option.any_eq_true _ _).mp hwaiting.1
  have hrunning := (hmem i).mp hi
  rw [hslot] at hrunning
  cases slot with
  | waiting work => exact absurd hrunning (by simp [Slot.isRunning])
  | running work => exact absurd hwait (by simp [Slot.isWaiting])
  | finished result => exact absurd hwait (by simp [Slot.isWaiting])

/-- When the first of the units in flight ends, the others are left. -/
theorem mem_iff_isRunning_finish {position : Nat} {later : List Nat} {work : Program A (Option β)}
    (hnew : position ∉ later)
    (hmem : ∀ i, i ∈ position :: later ↔ b.slots[i]?.any Slot.isRunning = true)
    (hslot : b.slots[position]? = some (.running work)) (result : Option β) (i : Nat) :
    i ∈ later ↔ (b.finish position result).slots[i]?.any Slot.isRunning = true := by
  show i ∈ later ↔ (List.set _ position _)[i]?.any Slot.isRunning = true
  by_cases hi : i = position
  · subst hi
    rw [List.getElem?_set_self (List.getElem?_eq_some_iff.mp hslot).1]
    exact iff_of_false hnew (by simp [Slot.isRunning])
  · rw [List.getElem?_set_ne (Ne.symm hi), ← hmem, List.mem_cons, or_iff_right hi]

/-- A poll after which the unit has ended. -/
theorem value_poll_inl {i : Nat} {work : Program A (Option β)} {s s' : σ} {result : Option β}
    (hi : b.slots[i]? = some (.running work))
    (hpoll : ((work.poll answers).run s).value = (.inl result, s')) :
    ((b.poll answers i).run s).value = ((b.finish i result, false), s') := by
  rw [poll, hi]
  show ((work.poll answers >>= _).run s).value = _
  rw [StateT.run_bind, Reported.value_bind, hpoll]
  rfl

/-- A poll after which the unit rests. -/
theorem value_poll_inr {i : Nat} {work next : Program A (Option β)} {s s' : σ}
    (hi : b.slots[i]? = some (.running work))
    (hpoll : ((work.poll answers).run s).value = (.inr next, s')) :
    ((b.poll answers i).run s).value = ((b.goOn i next, true), s') := by
  rw [poll, hi]
  show ((work.poll answers >>= _).run s).value = _
  rw [StateT.run_bind, Reported.value_bind, hpoll]
  rfl

end Order

end Batch

namespace Pool

variable {b : Batch A β}

/-- If no unit is in flight after the batch is filled, no turn is taken. -/
theorem value_takeTurns_nil (pool : Pool) (answers : Program.Answers A σ) (fuel : Nat)
    {ready : List Nat} (hturn : ready ++ (b.fill pool.width).2 = []) (s : σ) :
    ((pool.takeTurns answers (fuel + 1) b ready []).run s).value = ((b.fill pool.width).1, s) := by
  rw [takeTurns]
  simp only [hturn]
  rfl

/-- Else the first unit in flight takes its turn, and the pool goes on with what the poll leaves. -/
theorem value_takeTurns_cons (pool : Pool) (answers : Program.Answers A σ) (fuel : Nat)
    {ready later resting : List Nat} {position : Nat}
    (hturn : ready ++ (b.fill pool.width).2 = position :: later) {b' : Batch A β} {rests : Bool}
    {s s' : σ} (hpoll : (((b.fill pool.width).1.poll answers position).run s).value
      = ((b', rests), s')) :
    ((pool.takeTurns answers (fuel + 1) b ready resting).run s).value
      = ((pool.takeTurns answers fuel b' later
          (if rests then resting ++ [position] else resting)).run s').value := by
  rw [takeTurns]
  simp only [hturn]
  rw [StateT.run_bind, Reported.value_bind, hpoll]

/-- The pool follows an order of turns. For units that never rest, its queue of those in flight is
an order at whose end all units have ended, if there is fuel for each of them. -/
theorem takeTurns_follow (pool : Pool) (answers : Program.Answers A σ) (fuel : Nat)
    {ready : List Nat} {s : σ} (hb : b.Restless) (hready : ready.Nodup)
    (hmem : ∀ i, i ∈ ready ↔ b.slots[i]?.any Slot.isRunning = true)
    (hfuel : b.unfinished < fuel) :
    ((pool.takeTurns answers fuel b ready []).run s).value.1.isFinished = true
      ∧ ∃ order, Batch.follow answers pool.width order ((b.fill pool.width).1, s)
        = ((pool.takeTurns answers fuel b ready []).run s).value := by
  induction fuel generalizing b ready s with
  | zero => omega
  | succ fuel ih =>
      have hnodup := Batch.nodup_append_fill pool.width hready hmem
      have hmem' : ∀ i, i ∈ ready ++ (b.fill pool.width).2
          ↔ (b.fill pool.width).1.slots[i]?.any Slot.isRunning = true := by
        intro i
        rw [List.mem_append, hmem, Batch.isRunning_fill_iff]
      cases hturn : ready ++ (b.fill pool.width).2 with
      | nil =>
          have hvalue := pool.value_takeTurns_nil answers fuel hturn s
          refine ⟨?_, [], hvalue.symm⟩
          rw [hvalue]
          refine (Batch.filled_fill pool.width b).isFinished_of_idle pool.width_pos fun i hi => ?_
          rw [← hmem', hturn] at hi
          exact List.not_mem_nil hi
      | cons position later =>
          rw [hturn] at hnodup hmem'
          obtain ⟨hnew, hlater⟩ := List.nodup_cons.mp hnodup
          obtain ⟨slot, hslot, hrun⟩ :=
            (Option.any_eq_true _ _).mp ((hmem' position).mp (List.mem_cons_self ..))
          obtain ⟨work, rfl⟩ := Slot.isRunning_iff.mp hrun
          have hwork : work.Restless :=
            hb.fill pool.width _ (List.mem_of_getElem? hslot) work (.inr rfl)
          have hvalue : ((pool.takeTurns answers (fuel + 1) b ready []).run s).value = _ :=
            pool.value_takeTurns_cons answers fuel hturn
              (Batch.value_poll_inl hslot (Program.poll_of_restless hwork answers s))
          have hmem₂ := Batch.mem_iff_isRunning_finish hnew hmem' hslot
            ((work.run answers).run s).value.1
          have hcount := Batch.unfinished_finish hslot ((work.run answers).run s).value.1
          rw [Batch.unfinished_fill] at hcount
          obtain ⟨hend, order', horder'⟩ := ih (s := ((work.run answers).run s).value.2)
            ((hb.fill pool.width).finish position _) hlater hmem₂ (by omega)
          -- The turns of this unit up to its end, and then those of the others.
          obtain ⟨order, horder⟩ := Batch.exists_follow_run answers (s := s) hwork
            (Batch.filled_fill pool.width b) hslot
          rw [hvalue]
          refine ⟨hend, order ++ order', ?_⟩
          rw [Batch.follow_append, horder, horder']
          rfl

/-- A pool that goes on with a batch of units that never rest follows an order of turns to the end,
and gives the results of the batch. -/
theorem finish_follow (pool : Pool) (answers : Program.Answers A σ) (hb : b.Restless)
    (hfilled : b.Filled pool.width) (s : σ) :
    ∃ order b', Batch.follow answers pool.width order (b, s)
        = (b', ((pool.finish answers 0 b).run s).value.2)
      ∧ b'.isFinished = true ∧ ((pool.finish answers 0 b).run s).value.1 = b'.results := by
  have hfuel : b.unfinished < 2 * (b.slots.length + 0) + 1 := by
    have hle : b.unfinished ≤ b.slots.length := List.countP_le_length
    omega
  obtain ⟨hend, order, horder⟩ :=
    pool.takeTurns_follow answers (s := s) _ hb (List.nodup_range.filter _)
      (fun _ => Batch.mem_running) hfuel
  rw [hfilled.fill_eq] at horder
  exact ⟨order, _, horder, hend, rfl⟩

/-- A pool that runs units that never rest follows an order of turns to the end, and gives the
results of the batch. -/
theorem run_follow (pool : Pool) (answers : Program.Answers A σ)
    {work : List (Program A (Option β))} (hwork : ∀ u ∈ work, u.Restless) (s : σ) :
    ∃ order b', Batch.follow answers pool.width order (((Batch.ofWork work).fill pool.width).1, s)
        = (b', ((pool.run answers 0 work).run s).value.2)
      ∧ b'.isFinished = true ∧ ((pool.run answers 0 work).run s).value.1 = b'.results := by
  have hmem : ∀ i, i ∈ ([] : List Nat)
      ↔ (Batch.ofWork work).slots[i]?.any Slot.isRunning = true :=
    fun i => iff_of_false List.not_mem_nil (Batch.not_isRunning_ofWork work i)
  have hfuel : (Batch.ofWork work).unfinished < 2 * (work.length + 0) + 1 := by
    have hle : (Batch.ofWork work).unfinished ≤ (work.map Slot.waiting).length :=
      List.countP_le_length
    rw [List.length_map] at hle
    omega
  obtain ⟨hend, order, horder⟩ := pool.takeTurns_follow answers (s := s) _
    (Batch.restless_ofWork hwork) List.nodup_nil hmem hfuel
  exact ⟨order, _, horder, hend, rfl⟩

end Pool

end IngressController
