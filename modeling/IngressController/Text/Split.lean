/-!
# Cutting a text at a separator

`splitOn` cuts at every occurrence of a separator and keeps empty parts, so the parts of a text
are one more than its separators. `splitOnce` cuts at the first occurrence only and fails where
there is none. Joining the parts again with the separator gives back the text.
-/

set_option autoImplicit false

namespace IngressController.Text

/-- The parts of a list of characters between the occurrences of `sep`. -/
def splitChars (sep : Char) : List Char → List (List Char)
  | [] => [[]]
  | c :: rest =>
    match splitChars sep rest with
    | [] => [[c]]
    | part :: parts => if c = sep then [] :: part :: parts else (c :: part) :: parts

/-- The parts of a text between the occurrences of `sep`. -/
def splitOn (sep : Char) (s : String) : List String :=
  (splitChars sep s.toList).map String.ofList

/-- What stands before and after the first occurrence of `sep`. -/
def splitCharsOnce (sep : Char) : List Char → Option (List Char × List Char)
  | [] => none
  | c :: rest =>
    if c = sep then some ([], rest)
    else (splitCharsOnce sep rest).map fun (before, after) => (c :: before, after)

/-- What stands before and after the first occurrence of `sep` in a text. -/
def splitOnce (sep : Char) (s : String) : Option (String × String) :=
  (splitCharsOnce sep s.toList).map fun (before, after) =>
    (String.ofList before, String.ofList after)

theorem splitChars_ne_nil (sep : Char) (cs : List Char) : splitChars sep cs ≠ [] := by
  cases cs with
  | nil => simp [splitChars]
  | cons c rest =>
    rw [splitChars]
    split
    · simp
    · split <;> simp

/-- Joining the parts with the separator gives back the text. -/
theorem intercalate_splitChars (sep : Char) (cs : List Char) :
    [sep].intercalate (splitChars sep cs) = cs := by
  induction cs with
  | nil => rfl
  | cons c rest ih =>
    rw [splitChars]
    split
    · next h => exact absurd h (splitChars_ne_nil sep rest)
    · next part parts h =>
      rw [h] at ih
      split
      · next hc =>
        subst hc
        cases parts <;> simp_all [List.intercalate, List.intersperse]
      · cases parts <;> simp_all [List.intercalate, List.intersperse]

/-- The cut is at an occurrence of the separator, and none stands before it. -/
theorem splitCharsOnce_eq_some_iff {sep : Char} {cs before after : List Char} :
    splitCharsOnce sep cs = some (before, after) ↔ cs = before ++ sep :: after ∧ sep ∉ before := by
  induction cs generalizing before after with
  | nil => simp [splitCharsOnce]
  | cons c rest ih =>
    rw [splitCharsOnce]
    by_cases hc : c = sep
    · cases before <;> simp_all [eq_comm]
    · cases before with
      | nil => simp_all
      | cons b bs =>
        simp only [hc, ↓reduceIte, Option.map_eq_some_iff, Prod.exists, Prod.mk.injEq,
          List.cons.injEq, List.cons_append, List.mem_cons, not_or]
        constructor
        · rintro ⟨x, y, h, ⟨rfl, rfl⟩, rfl⟩
          exact ⟨⟨rfl, (ih.1 h).1⟩, Ne.symm hc, (ih.1 h).2⟩
        · rintro ⟨⟨rfl, h⟩, _, hb⟩
          exact ⟨bs, after, ih.2 ⟨h, hb⟩, ⟨rfl, rfl⟩, rfl⟩

theorem splitCharsOnce_eq_none_iff {sep : Char} {cs : List Char} :
    splitCharsOnce sep cs = none ↔ sep ∉ cs := by
  induction cs with
  | nil => simp [splitCharsOnce]
  | cons c rest ih =>
    rw [splitCharsOnce]
    by_cases hc : c = sep
    · simp [hc]
    · simp [hc, Ne.symm hc, ih]

end IngressController.Text
