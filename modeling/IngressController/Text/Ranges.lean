/-!
# Classes of characters by ranges

A class of characters can be given by the ranges of its code points, each by its first and its last
one. Where the ranges stand in order with gaps between them, no shorter list gives the same class.
-/

set_option autoImplicit false

namespace IngressController.Text

/-- Whether a character is in one of some ranges. -/
def inRanges (ranges : List (Nat × Nat)) (c : Char) : Bool :=
  ranges.any fun (first, last) => first ≤ c.toNat && c.toNat ≤ last

theorem inRanges_cons {range : Nat × Nat} {rest : List (Nat × Nat)} {c : Char} :
    inRanges (range :: rest) c = true ↔
      (range.1 ≤ c.toNat ∧ c.toNat ≤ range.2) ∨ inRanges rest c = true := by
  simp [inRanges]

/-- Whether ranges stand in order with gaps between them, all of them behind a code point. -/
def orderedFrom (start : Nat) : List (Nat × Nat) → Bool
  | [] => true
  | (first, last) :: rest =>
    start ≤ first && first ≤ last && orderedFrom (last + 2) rest

/-- A character in front of ordered ranges is in none of them. -/
theorem inRanges_of_lt {start : Nat} {ranges : List (Nat × Nat)} {c : Char}
    (ordered : orderedFrom start ranges = true) (h : c.toNat < start) :
    inRanges ranges c = false := by
  induction ranges generalizing start with
  | nil => rfl
  | cons range rest ih =>
    simp only [orderedFrom, Bool.and_eq_true, decide_eq_true_eq] at ordered
    rw [← Bool.not_eq_true, inRanges_cons, ih ordered.2 (by omega)]
    simp only [Bool.false_eq_true, or_false, not_and]
    omega

end IngressController.Text
