/-!
# Blank characters and trimming

A character is blank when Unicode gives it the property `White_Space`. Trimming takes blanks off
both ends of a text; a text of blanks only becomes empty.

The small lemmas say that ASCII white space is blank and that trimming leaves nothing exactly
where there was nothing but blanks.
-/

set_option autoImplicit false

namespace IngressController.Text

/-- The 25 code points with the property `White_Space`. -/
def isBlank (c : Char) : Bool :=
  let n := c.toNat
  (0x09 ≤ n && n ≤ 0x0D) || n == 0x20 || n == 0x85 || n == 0xA0 || n == 0x1680 ||
    (0x2000 ≤ n && n ≤ 0x200A) || n == 0x2028 || n == 0x2029 || n == 0x202F || n == 0x205F ||
    n == 0x3000

/-- Every character that is white space in ASCII is blank. -/
theorem isBlank_of_isWhitespace {c : Char} (h : c.isWhitespace = true) : isBlank c = true := by
  simp only [Char.isWhitespace, Bool.or_eq_true, decide_eq_true_eq] at h
  rcases h with ((rfl | rfl) | rfl) | rfl <;> decide

/-- Drops the blanks at the end of a list of characters. -/
def dropBlankEnd : List Char → List Char
  | [] => []
  | c :: rest =>
    match dropBlankEnd rest with
    | [] => if isBlank c then [] else [c]
    | kept => c :: kept

/-- Drops the blanks at both ends of a list of characters. -/
def trimChars (cs : List Char) : List Char :=
  dropBlankEnd (cs.dropWhile isBlank)

/-- Drops the blanks at both ends of a text. -/
def trim (s : String) : String :=
  String.ofList (trimChars s.toList)

theorem dropBlankEnd_eq_nil_iff {cs : List Char} :
    dropBlankEnd cs = [] ↔ ∀ c ∈ cs, isBlank c = true := by
  induction cs with
  | nil => simp [dropBlankEnd]
  | cons c rest ih =>
    rw [dropBlankEnd]
    split
    · next h =>
      by_cases hc : isBlank c = true <;> simp_all
    · next h =>
      simp only [reduceCtorEq, List.mem_cons, forall_eq_or_imp, false_iff, not_and]
      intro _ hall
      exact h (ih.2 hall)

theorem trimChars_eq_nil_iff {cs : List Char} :
    trimChars cs = [] ↔ ∀ c ∈ cs, isBlank c = true := by
  rw [trimChars, dropBlankEnd_eq_nil_iff]
  induction cs with
  | nil => simp
  | cons c rest ih =>
    rw [List.dropWhile_cons]
    by_cases hc : isBlank c = true <;> simp_all

end IngressController.Text
