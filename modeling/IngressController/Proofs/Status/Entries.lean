import IngressController.Status.Entries

/-!
# `IngressController.Proofs.Status.Entries`: what the order of entries forgets

The address of an entry is its host name and its IP, with a missing one counting as empty. Entries
are ordered and compared by their addresses alone, so two lists of entries that have been ordered
agree exactly when they hold the same addresses equally often.

* `sameEntries_sortEntries_iff`: the comparison after ordering is equality up to the order.
* `pairwise_sortEntries` and `sortEntries_perm`: ordered lists are ordered, and lose nothing.
-/

set_option autoImplicit false

namespace IngressController.Object.Entry

/-- The host name and the IP of an entry, empty if missing. -/
def address (e : Entry) : String × String :=
  (e.hostname.getD "", e.ip.getD "")

/-- Entries are the same if their addresses are. -/
theorem sameAs_iff (a b : Entry) : a.sameAs b = true ↔ a.address = b.address := by
  rw [sameAs, Bool.and_eq_true, beq_iff_eq, beq_iff_eq, address, address, Prod.mk.injEq, and_comm]
  exact Iff.rfl

/-- Whether an address comes before another by host name and then by IP, or is the same. -/
def Precedes (x y : String × String) : Prop :=
  x.1 < y.1 ∨ x.1 = y.1 ∧ x.2 ≤ y.2

/-- Entries are ordered by their addresses. -/
theorem le_iff (a b : Entry) : a.le b = true ↔ Precedes a.address b.address :=
  decide_eq_true_iff

/-- Of two entries one comes before the other. -/
theorem le_total (a b : Entry) : (a.le b || b.le a) = true := by
  rw [Bool.or_eq_true, le_iff, le_iff]
  by_cases hhost : a.hostText = b.hostText
  · rcases String.le_total a.ipText b.ipText with hip | hip
    · exact .inl (.inr ⟨hhost, hip⟩)
    · exact .inr (.inr ⟨hhost.symm, hip⟩)
  · by_cases hlt : a.hostText < b.hostText
    · exact .inl (.inl hlt)
    · exact .inr (.inl (Text.lt_of_not_lt_of_ne hlt hhost))

/-- The order of entries is transitive. -/
theorem le_trans (a b c : Entry) (hab : a.le b = true) (hbc : b.le c = true) :
    a.le c = true := by
  rw [le_iff] at hab hbc ⊢
  rcases hab with hab | ⟨hab, hip⟩
  · rcases hbc with hbc | ⟨hbc, -⟩
    · exact .inl (Text.lt_trans hab hbc)
    · exact .inl (hbc ▸ hab)
  · rcases hbc with hbc | ⟨hbc, hip'⟩
    · exact .inl (hab ▸ hbc)
    · exact .inr ⟨hab.trans hbc, String.le_trans hip hip'⟩

/-- Two addresses that come before each other are the same. -/
theorem precedes_antisymm {x y : String × String} (hxy : Precedes x y) (hyx : Precedes y x) :
    x = y := by
  rcases hxy with hlt | ⟨hhost, hip⟩
  · rcases hyx with hlt' | ⟨hhost, -⟩
    · exact absurd (Text.lt_trans hlt hlt') (String.lt_irrefl _)
    · exact absurd (hhost ▸ hlt) (String.lt_irrefl _)
  · rcases hyx with hlt | ⟨-, hip'⟩
    · exact absurd (hhost ▸ hlt) (String.lt_irrefl _)
    · exact Prod.ext hhost (String.le_antisymm hip hip')

end IngressController.Object.Entry

namespace IngressController.Status

open Object

theorem sortEntries_nil : sortEntries [] = [] := by
  rw [sortEntries, List.mergeSort_nil]

/-- Ordered entries are the given ones. -/
theorem sortEntries_perm (entries : List Entry) : (sortEntries entries).Perm entries :=
  List.mergeSort_perm ..

/-- The entries of some addresses are those that are made for them. -/
theorem entriesOf_perm (addresses : List String) :
    (entriesOf addresses).Perm (addresses.map Entry.ofAddress) :=
  List.mergeSort_perm ..

/-- Ordered entries are in the order of their addresses. -/
theorem pairwise_sortEntries (entries : List Entry) :
    (sortEntries entries).Pairwise fun a b => Entry.Precedes a.address b.address :=
  (List.pairwise_mergeSort Entry.le_trans Entry.le_total entries).imp fun h =>
    (Entry.le_iff _ _).mp h

/-- Lists agree position by position if their lists of addresses are equal. -/
theorem sameEntries_iff (as bs : List Entry) :
    sameEntries as bs = true ↔ as.map Entry.address = bs.map Entry.address := by
  induction as generalizing bs with
  | nil => cases bs <;> simp [sameEntries]
  | cons a as ih =>
      cases bs with
      | nil => simp [sameEntries]
      | cons b bs =>
          rw [sameEntries, Bool.and_eq_true, Entry.sameAs_iff, ih, List.map_cons, List.map_cons,
            List.cons.injEq]

/-- Two lists of entries, once ordered, agree exactly when they hold the same addresses equally
often. -/
theorem sameEntries_sortEntries_iff (as bs : List Entry) :
    sameEntries (sortEntries as) (sortEntries bs) = true
      ↔ (as.map Entry.address).Perm (bs.map Entry.address) := by
  rw [sameEntries_iff]
  constructor
  · intro h
    have has := (sortEntries_perm as).map Entry.address
    rw [h] at has
    exact has.symm.trans ((sortEntries_perm bs).map Entry.address)
  · intro h
    -- Two ordered lists with the same addresses are equal, as the order is antisymmetric on them.
    have hperm : ((sortEntries as).map Entry.address).Perm ((sortEntries bs).map Entry.address) :=
      ((sortEntries_perm as).map _).trans (h.trans ((sortEntries_perm bs).map _).symm)
    have hsorted : ∀ l, ((sortEntries l).map Entry.address).Pairwise Entry.Precedes := fun l =>
      List.pairwise_map.mpr (pairwise_sortEntries l)
    exact hperm.eq_of_pairwise (fun _ _ _ _ => Entry.precedes_antisymm) (hsorted as) (hsorted bs)

end IngressController.Status
