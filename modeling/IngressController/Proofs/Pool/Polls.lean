import IngressController.Proofs.Pool
import Mathlib.Logic.Hydra

/-!
# `IngressController.Proofs.Pool.Polls`: the order of the pool comes to an end

The pool polls the units in flight one after the other, and those that rest once more in the next
turn. How often a unit rests may depend on how it is answered, so there is no number that bounds the
polls of all runs. But each poll leaves a part of what the unit had left to do, or nothing. This is
a hydra that has a head for each unit that has not ended, and loses one in each poll, in whose place
a smaller one may grow. It is known that this comes to an end.

* `Program.wellFounded_restsIn`: a unit does not rest for ever.
* `Pool.Ends`: the pool follows an order of turns to its end if it is given enough time.
* `Pool.ends_of_queued`: it does so for all units, whatever they do. The induction is on the hydra.
* `Pool.exists_run_follow`: so a run of the pool is one of the orders of turns.
-/

set_option autoImplicit false

namespace IngressController

variable {Q : Type} {A : Q → Type} {α β σ : Type}

namespace Program

variable {answers : Answers A σ}

/-- A poll of a program leaves this to be done after a rest. -/
def RestsIn (answers : Answers A σ) (next p : Program A α) : Prop :=
  ∃ s, ((p.poll answers).run s).value.1 = .inr next

/-- No program rests for ever. -/
theorem wellFounded_restsIn (answers : Answers A σ) :
    WellFounded (RestsIn (α := α) answers) := by
  refine ⟨fun p => ?_⟩
  induction p with
  | done a =>
      refine ⟨_, ?_⟩
      rintro next ⟨s, h⟩
      cases h
  | note n p ih => exact ⟨_, fun next h => ih.inv h⟩
  | rest p ih =>
      refine ⟨_, ?_⟩
      rintro next ⟨s, h⟩
      obtain rfl : p = next := Sum.inr.inj h
      exact ih
  | ask q p ih =>
      refine ⟨_, ?_⟩
      rintro next ⟨s, h⟩
      exact (ih ((answers q).run s).value.1).inv ⟨((answers q).run s).value.2, h⟩

end Program

/-- What a unit has left to do. -/
def Slot.left : Slot A β → List (Program A (Option β))
  | waiting work => [work]
  | running work => [work]
  | finished _ => []

/-- To start changes nothing about it. -/
theorem Slot.Starts.left_eq {slot slot' : Slot A β} (h : slot.Starts slot') :
    slot'.left = slot.left := by
  cases h <;> rfl

namespace Batch

variable {b : Batch A β}

/-- What the units of a batch have left to do. -/
def left (b : Batch A β) : Multiset (Program A (Option β)) :=
  b.slots.flatMap Slot.left

/-- To start units changes nothing about it. -/
theorem left_fill (width : Nat) (b : Batch A β) : (b.fill width).1.left = b.left := by
  have h := forall₂_fill width b
  show Multiset.ofList ((b.fill width).1.slots.flatMap _) = Multiset.ofList (b.slots.flatMap _)
  congr 1
  generalize (b.fill width).1.slots = slots' at h ⊢
  generalize b.slots = slots at h ⊢
  induction h with
  | nil => rfl
  | cons hstarts _ ih => rw [List.flatMap_cons, List.flatMap_cons, ih, hstarts.left_eq]

/-- A poll leaves less to do: nothing of the unit, or a part in its place. -/
theorem cutExpand_afterPoll (width : Nat) (answers : Program.Answers A σ) {i : Nat}
    {work : Program A (Option β)} (hi : b.slots[i]? = some (.running work)) (s : σ) :
    Relation.CutExpand (Program.RestsIn answers)
      (b.afterPoll width i ((work.poll answers).run s).value.1).left b.left := by
  have hset : ∀ slot : Slot A β, Multiset.ofList ((b.slots.set i slot).flatMap Slot.left) + {work}
      = b.left + Multiset.ofList slot.left := by
    intro slot
    rw [add_comm, add_comm b.left]
    exact Multiset.coe_eq_coe.mpr (flatMap_exchange_perm Slot.left hi)
  cases hpoll : ((work.poll answers).run s).value.1 with
  | inl result =>
      refine ⟨0, work, by simp, ?_⟩
      rw [afterPoll, left_fill]
      exact hset (.finished result)
  | inr next =>
      refine ⟨{next}, work, ?_, hset (.running next)⟩
      intro left hleft
      rw [Multiset.mem_singleton.mp hleft]
      exact ⟨s, hpoll⟩

end Batch

namespace Pool

variable {b : Batch A β} {ready resting : List Nat} {s : σ}

/-- Each unit in flight is in the queue of the pool once, ready for its turn or resting up to the
next. -/
structure Queued (b : Batch A β) (ready resting : List Nat) : Prop where
  nodup : (ready ++ resting).Nodup
  mem_iff : ∀ i, i ∈ ready ++ resting ↔ b.slots[i]?.any Slot.isRunning = true

/-- The pool follows an order of turns to the end of the batch if it is given enough time. -/
def Ends (pool : Pool) (answers : Program.Answers A σ) (b : Batch A β) (ready resting : List Nat)
    (s : σ) : Prop :=
  ∃ (enough : Nat) (order : List Nat) (x : Batch A β × σ), x.1.isFinished = true
    ∧ Batch.follow answers pool.width order ((b.fill pool.width).1, s) = x
    ∧ ∀ fuel, enough ≤ fuel → ((pool.takeTurns answers fuel b ready resting).run s).value = x

/-- Units that start join those that are ready. -/
theorem Queued.fill (h : Queued b ready resting) (width : Nat) :
    Queued (b.fill width).1 (ready ++ (b.fill width).2) resting where
  nodup := by
    have hnodup := Batch.nodup_append_fill width h.nodup h.mem_iff
    refine (List.Perm.nodup_iff ?_).mp hnodup
    rw [List.append_assoc, List.append_assoc]
    exact List.perm_append_comm.append_left ready
  mem_iff i := by
    rw [Batch.isRunning_fill_iff, ← h.mem_iff]
    simp only [List.mem_append]
    tauto

/-- After a poll the unit has ended, or it rests up to the next turn. -/
theorem Queued.afterPoll {position : Nat} (h : Queued b (position :: ready) resting)
    {work : Program A (Option β)} (hslot : b.slots[position]? = some (.running work)) :
    (∀ result, Queued (b.finish position result) ready resting)
      ∧ ∀ next, Queued (b.goOn position next) ready (resting ++ [position]) := by
  obtain ⟨hnew, hrest⟩ := List.nodup_cons.mp h.nodup
  refine ⟨fun result => ⟨hrest, fun i => ?_⟩, fun next => ⟨?_, fun i => ?_⟩⟩
  · exact Batch.mem_iff_isRunning_finish hnew h.mem_iff hslot result i
  · rw [← List.append_assoc]
    exact (List.perm_append_singleton position (ready ++ resting)).nodup_iff.mpr h.nodup
  · show _ ↔ (List.set _ position _)[i]?.any Slot.isRunning = true
    rw [← List.append_assoc]
    by_cases hi : i = position
    · subst hi
      rw [List.getElem?_set_self (List.getElem?_eq_some_iff.mp hslot).1]
      exact iff_of_true (by simp) rfl
    · rw [List.getElem?_set_ne (Ne.symm hi), ← h.mem_iff]
      simp [hi]

/-- If nothing is in the queue after the batch is filled, the batch has ended. -/
theorem ends_of_empty (pool : Pool) (answers : Program.Answers A σ) (h : Queued b ready [])
    (hturn : ready ++ (b.fill pool.width).2 = []) (s : σ) : pool.Ends answers b ready [] s := by
  refine ⟨1, [], ((b.fill pool.width).1, s), ?_, rfl, fun fuel hfuel => ?_⟩
  · refine (Batch.filled_fill pool.width b).isFinished_of_idle pool.width_pos fun i hi => ?_
    have hin := ((h.fill pool.width).mem_iff i).mpr hi
    rw [hturn] at hin
    exact List.not_mem_nil hin
  · obtain ⟨fuel, rfl⟩ := Nat.exists_eq_add_of_le' hfuel
    exact pool.value_takeTurns_nil answers fuel hturn s

/-- The pool ends if it does so after the poll of the first unit in the queue. -/
theorem Ends.of_poll {pool : Pool} {answers : Program.Answers A σ} {position : Nat}
    {later : List Nat} (hturn : ready ++ (b.fill pool.width).2 = position :: later)
    {order : List Nat} {b' : Batch A β} {rests : Bool} {s' : σ}
    (horder : Batch.follow answers pool.width order ((b.fill pool.width).1, s)
      = ((b'.fill pool.width).1, s'))
    (hpoll : (((b.fill pool.width).1.poll answers position).run s).value = ((b', rests), s'))
    (h : pool.Ends answers b' later (if rests then resting ++ [position] else resting) s') :
    pool.Ends answers b ready resting s := by
  obtain ⟨enough, order', x, hend, horder', hvalue⟩ := h
  refine ⟨enough + 1, order ++ order', x, hend, ?_, fun fuel hfuel => ?_⟩
  · rw [Batch.follow_append, horder, horder']
  · obtain ⟨fuel, rfl⟩ := Nat.exists_eq_add_of_le' (Nat.le_of_add_left_le hfuel)
    rw [pool.value_takeTurns_cons answers fuel hturn hpoll]
    exact hvalue fuel (Nat.le_of_add_le_add_right hfuel)

/-- Once all units have had their turn, those that rest are ready for the next one. -/
theorem Ends.of_nextTurn {pool : Pool} {answers : Program.Answers A σ}
    (hturn : ready ++ (b.fill pool.width).2 = []) (hresting : resting ≠ [])
    (h : pool.Ends answers (b.fill pool.width).1 resting [] s) :
    pool.Ends answers b ready resting s := by
  obtain ⟨enough, order, x, hend, horder, hvalue⟩ := h
  refine ⟨enough + 1, order, x, hend, ?_, fun fuel hfuel => ?_⟩
  · rw [← horder, (Batch.filled_fill pool.width b).fill_eq]
  · obtain ⟨fuel, rfl⟩ := Nat.exists_eq_add_of_le' (Nat.le_of_add_left_le hfuel)
    rw [takeTurns]
    simp only [hturn]
    exact hvalue fuel (Nat.le_of_add_le_add_right hfuel)

/-- If some unit is ready, it is polled. The pool ends if it does so for all batches with less left
to do. -/
theorem Ends.of_less {pool : Pool} {answers : Program.Answers A σ} (h : Queued b ready resting)
    {position : Nat} {later : List Nat} (hturn : ready ++ (b.fill pool.width).2 = position :: later)
    (hless : ∀ (b' : Batch A β) (ready resting : List Nat) (s : σ),
      Relation.CutExpand (Program.RestsIn answers) b'.left b.left → Queued b' ready resting →
      pool.Ends answers b' ready resting s) (s : σ) :
    pool.Ends answers b ready resting s := by
  have hfilled := Batch.filled_fill pool.width b
  have hqueued := h.fill pool.width
  rw [hturn] at hqueued
  obtain ⟨slot, hslot, hrun⟩ :=
    (Option.any_eq_true _ _).mp ((hqueued.mem_iff position).mp (List.mem_cons_self ..))
  obtain ⟨work, rfl⟩ := Slot.isRunning_iff.mp hrun
  obtain ⟨hfinish, hgoOn⟩ := hqueued.afterPoll hslot
  obtain ⟨order, horder⟩ := Batch.exists_follow_poll answers (s := s) hfilled hslot
  have hcut := Batch.cutExpand_afterPoll pool.width answers hslot s
  rw [Batch.left_fill] at hcut
  rcases hpoll : ((work.poll answers).run s).value with ⟨result | next, s'⟩
  · rw [hpoll] at horder hcut
    rw [Batch.afterPoll, Batch.left_fill] at hcut
    exact .of_poll hturn horder (Batch.value_poll_inl hslot hpoll)
      (hless _ _ _ s' hcut (hfinish result))
  · rw [hpoll] at horder hcut
    rw [Batch.afterPoll, ← (hfilled.goOn hslot next).fill_eq] at horder
    exact .of_poll hturn horder (Batch.value_poll_inr hslot hpoll)
      (hless _ _ _ s' hcut (hgoOn next))

/-- The pool comes to the end of every batch, whatever its units do and however they are answered.
The induction is on what the units have left to do. -/
theorem ends_of_queued (pool : Pool) (answers : Program.Answers A σ)
    (h : Queued b ready resting) (s : σ) : pool.Ends answers b ready resting s := by
  induction hleft : b.left using (Program.wellFounded_restsIn answers).cutExpand.induction
    generalizing b ready resting s with
  | _ left ih =>
      subst hleft
      cases hturn : ready ++ (b.fill pool.width).2 with
      | cons position later =>
          exact .of_less h hturn (fun b' _ _ s hcut h => ih b'.left hcut h s rfl) s
      | nil =>
          cases resting with
          | nil => exact pool.ends_of_empty answers h hturn s
          | cons position later =>
              -- A turn begins, with as much left to do as before, but with a unit that is ready.
              have hqueued := h.fill pool.width
              rw [hturn] at hqueued
              refine .of_nextTurn hturn (List.cons_ne_nil _ _) ?_
              refine .of_less ⟨?_, ?_⟩ rfl (fun b' _ _ s hcut h => ?_) s
              · simpa using hqueued.nodup
              · simpa using hqueued.mem_iff
              · rw [Batch.left_fill] at hcut
                exact ih b'.left hcut h s rfl

/-- A pool that runs units of work follows an order of turns to the end of the batch, and gives its
results, if it is given enough time. -/
theorem exists_run_follow (pool : Pool) (answers : Program.Answers A σ)
    (work : List (Program A (Option β))) (s : σ) :
    ∃ (enough : Nat) (order : List Nat) (x : Batch A β × σ), x.1.isFinished = true
      ∧ Batch.follow answers pool.width order (((Batch.ofWork work).fill pool.width).1, s) = x
      ∧ ∀ rests, enough ≤ rests →
        ((pool.run answers rests work).run s).value = (x.1.results, x.2) := by
  have hqueued : Queued (Batch.ofWork work) [] [] :=
    ⟨List.nodup_nil, fun i => iff_of_false List.not_mem_nil (Batch.not_isRunning_ofWork work i)⟩
  obtain ⟨enough, order, x, hend, horder, hvalue⟩ := pool.ends_of_queued answers hqueued s
  refine ⟨enough, order, x, hend, horder, fun rests hrests => ?_⟩
  rw [run, StateT.run_bind, Reported.value_bind, hvalue _ (by omega)]
  rfl

end Pool

end IngressController
