import IngressController.Text.Blank
import IngressController.Text.Split
import Mathlib.Data.List.DropRight
import Mathlib.Data.List.Forall2

/-!
# `IngressController.Proofs.Text.Fields`: texts made of fields

Cutting a text at a separator undoes joining fields with it, as long as no field has the separator
in it; what has come out of a text by cutting never has. Trimming a field takes away characters at
its ends, and a second time takes away nothing. The texts that are trimmed to a field are the ones
with blanks around it.

* `splitOn_intercalate`: the fields of a text that has been put together from them.
* `not_mem_of_mem_splitOn`: no field has the separator in it.
* `splitOn_eq_iff`: how a text is cut, for every text.
* `mem_of_mem_trim` and `trim_trim`: what trimming leaves.
* `Padded` and `padded_iff`: texts with blanks around them.
* `map_trim_splitOn_trim`: to trim a text first makes no difference to its trimmed parts.
-/

set_option autoImplicit false

namespace IngressController.Text

/-! ### Cutting and joining -/

/-- Cutting a list of characters is splitting it at the occurrences of an element. -/
theorem splitChars_eq_splitOn (sep : Char) (cs : List Char) :
    splitChars sep cs = cs.splitOn sep := by
  induction cs with
  | nil => rfl
  | cons c rest ih =>
      rw [splitChars, List.splitOn_cons_eq_if_modifyHead, ← ih]
      cases hparts : splitChars sep rest with
      | nil => exact absurd hparts (splitChars_ne_nil sep rest)
      | cons part parts => simp

/-- No part of a list of characters has the separator in it. -/
theorem not_mem_of_mem_splitChars {sep : Char} {cs part : List Char}
    (h : part ∈ splitChars sep cs) : sep ∉ part := by
  induction cs generalizing part with
  | nil =>
      rw [List.mem_singleton.mp h]
      exact List.not_mem_nil
  | cons c rest ih =>
      rw [splitChars] at h
      cases hparts : splitChars sep rest with
      | nil => exact absurd hparts (splitChars_ne_nil sep rest)
      | cons first parts =>
          simp only [hparts, List.forall_mem_cons] at h ih
          by_cases hc : c = sep
          · rw [if_pos hc] at h
            rcases List.mem_cons.mp h with rfl | h
            · exact List.not_mem_nil
            · rcases List.mem_cons.mp h with rfl | h
              · exact ih.1
              · exact ih.2 part h
          · rw [if_neg hc] at h
            rcases List.mem_cons.mp h with rfl | h
            · exact List.not_mem_cons_of_ne_of_not_mem (Ne.symm hc) ih.1
            · exact ih.2 part h

/-- No field of a text has the separator in it. -/
theorem not_mem_of_mem_splitOn {sep : Char} {s field : String} (h : field ∈ splitOn sep s) :
    sep ∉ field.toList := by
  obtain ⟨part, hpart, rfl⟩ := List.mem_map.mp h
  rw [String.toList_ofList]
  exact not_mem_of_mem_splitChars hpart

/-- Fields without the separator come out of the text that they have been joined to. -/
theorem splitOn_intercalate {sep : Char} {fields : List String} (hne : fields ≠ [])
    (h : ∀ field ∈ fields, sep ∉ field.toList) :
    splitOn sep ((String.singleton sep).intercalate fields) = fields := by
  have hparts : ∀ part ∈ fields.map String.toList, sep ∉ part := by
    simpa using h
  rw [splitOn, splitChars_eq_splitOn, String.toList_intercalate, String.toList_singleton,
    List.splitOn_intercalate sep hparts (by simpa using hne), List.map_map]
  simp

/-- The parts of a text, joined again, are the text. -/
theorem intercalate_splitOn (sep : Char) (s : String) :
    (String.singleton sep).intercalate (splitOn sep s) = s := by
  rw [← String.toList_inj, String.toList_intercalate, splitOn, List.map_map]
  have hid : String.toList ∘ String.ofList = id := funext fun _ => String.toList_ofList
  rw [hid, List.map_id, String.toList_singleton, intercalate_splitChars]

/-- A text is cut into the fields without the separator that it has been put together from. -/
theorem splitOn_eq_iff {sep : Char} {s : String} {fields : List String} (hne : fields ≠ []) :
    splitOn sep s = fields
      ↔ s = (String.singleton sep).intercalate fields ∧ ∀ field ∈ fields, sep ∉ field.toList := by
  constructor
  · rintro rfl
    exact ⟨(intercalate_splitOn sep s).symm, fun _ hfield => not_mem_of_mem_splitOn hfield⟩
  · rintro ⟨rfl, hfields⟩
    exact splitOn_intercalate hne hfields

/-! ### Trimming -/

/-- Dropping the blanks at the end a second time drops nothing. -/
theorem dropBlankEnd_dropBlankEnd (cs : List Char) :
    dropBlankEnd (dropBlankEnd cs) = dropBlankEnd cs := by
  induction cs with
  | nil => rfl
  | cons c rest ih =>
      rw [dropBlankEnd]
      cases hkept : dropBlankEnd rest with
      | nil =>
          by_cases hc : isBlank c = true
          · simp [hc, dropBlankEnd]
          · simp [hc, dropBlankEnd]
      | cons k ks =>
          rw [hkept] at ih
          show dropBlankEnd (c :: k :: ks) = c :: k :: ks
          rw [dropBlankEnd, ih]

/-- What does not begin with a blank does not when the blanks at its end are dropped. -/
theorem dropWhile_dropBlankEnd {cs : List Char} (h : cs.dropWhile isBlank = cs) :
    (dropBlankEnd cs).dropWhile isBlank = dropBlankEnd cs := by
  cases cs with
  | nil => rfl
  | cons c rest =>
      have hc : isBlank c = false := by
        rw [← Bool.not_eq_true]
        exact List.dropWhile_eq_self_iff.mp h (Nat.succ_pos _)
      rw [dropBlankEnd]
      cases dropBlankEnd rest with
      | nil => simp [hc]
      | cons k ks => simp [hc]

/-- Trimming a text a second time leaves it as it is. -/
theorem trim_trim (s : String) : trim (trim s) = trim s := by
  have hfront : (s.toList.dropWhile isBlank).dropWhile isBlank = s.toList.dropWhile isBlank :=
    List.dropWhile_idempotent isBlank s.toList
  rw [trim, trim, String.toList_ofList, trimChars, trimChars, dropWhile_dropBlankEnd hfront,
    dropBlankEnd_dropBlankEnd]

/-- Without a blank there is none at the end. -/
theorem dropBlankEnd_of_notBlank {cs : List Char} (h : ∀ c ∈ cs, isBlank c = false) :
    dropBlankEnd cs = cs := by
  induction cs with
  | nil => rfl
  | cons c rest ih =>
      obtain ⟨hc, hrest⟩ := List.forall_mem_cons.mp h
      rw [dropBlankEnd, ih hrest]
      cases rest with
      | nil => simp [hc]
      | cons k ks => rfl

/-- Trimming leaves a text without blanks as it is. -/
theorem trim_of_notBlank {s : String} (h : ∀ c ∈ s.toList, isBlank c = false) : trim s = s := by
  have hfront : s.toList.dropWhile isBlank = s.toList := by
    refine List.dropWhile_eq_self_iff.mpr fun hpos => ?_
    exact Bool.not_eq_true _ ▸ h _ (List.getElem_mem hpos)
  rw [trim, trimChars, hfront, dropBlankEnd_of_notBlank h, String.ofList_toList]

/-- Without the blanks at their end, characters are a part of what they were. -/
theorem dropBlankEnd_sublist (cs : List Char) : (dropBlankEnd cs).Sublist cs := by
  induction cs with
  | nil => exact .slnil
  | cons c rest ih =>
      rw [dropBlankEnd]
      split
      · split
        · exact List.nil_sublist _
        · exact List.singleton_sublist.mpr (List.mem_cons_self ..)
      · exact ih.cons_cons c

/-- What is in a text after trimming has been in it before. -/
theorem mem_of_mem_trim {s : String} {c : Char} (h : c ∈ (trim s).toList) : c ∈ s.toList := by
  rw [trim, String.toList_ofList] at h
  exact (List.dropWhile_sublist isBlank).subset ((dropBlankEnd_sublist _).subset h)

/-! ### Padding -/

/-- A text is another one with blanks around it. -/
def Padded (text padded : String) : Prop :=
  ∃ before after : String, padded = before ++ text ++ after
    ∧ (∀ c ∈ before.toList, isBlank c = true) ∧ ∀ c ∈ after.toList, isBlank c = true

/-- Blanks behind some characters are dropped with those at their end. -/
theorem dropBlankEnd_append {after : List Char} (h : ∀ c ∈ after, isBlank c = true)
    (cs : List Char) : dropBlankEnd (cs ++ after) = dropBlankEnd cs := by
  induction cs with
  | nil => exact dropBlankEnd_eq_nil_iff.mpr h
  | cons c rest ih => rw [List.cons_append, dropBlankEnd, ih, dropBlankEnd]

/-- What is dropped at the end are blanks. -/
theorem exists_dropBlankEnd_append (cs : List Char) :
    ∃ after, cs = dropBlankEnd cs ++ after ∧ ∀ c ∈ after, isBlank c = true := by
  induction cs with
  | nil => exact ⟨[], rfl, fun _ hc => absurd hc List.not_mem_nil⟩
  | cons c rest ih =>
      obtain ⟨after, hrest, hafter⟩ := ih
      rw [dropBlankEnd]
      cases hkept : dropBlankEnd rest with
      | nil =>
          rw [hkept, List.nil_append] at hrest
          subst hrest
          by_cases hc : isBlank c = true
          · exact ⟨c :: rest, by simp [hc], List.forall_mem_cons.mpr ⟨hc, hafter⟩⟩
          · exact ⟨rest, by simp [hc], hafter⟩
      | cons k ks =>
          rw [hkept] at hrest
          exact ⟨after, congrArg (c :: ·) hrest, hafter⟩

/-- Blanks around some characters make no difference to what is left when they are trimmed. -/
theorem trimChars_append {before after : List Char} (hbefore : ∀ c ∈ before, isBlank c = true)
    (hafter : ∀ c ∈ after, isBlank c = true) (cs : List Char) :
    trimChars (before ++ cs ++ after) = trimChars cs := by
  by_cases hblank : ∀ c ∈ cs, isBlank c = true
  · rw [trimChars_eq_nil_iff.mpr hblank, trimChars_eq_nil_iff]
    exact List.forall_mem_append.mpr ⟨List.forall_mem_append.mpr ⟨hbefore, hblank⟩, hafter⟩
  · have hfront : (cs ++ after).dropWhile isBlank = cs.dropWhile isBlank ++ after := by
      rw [List.dropWhile_append, if_neg]
      simpa using hblank
    rw [trimChars, trimChars, List.append_assoc, List.dropWhile_append_of_pos hbefore, hfront,
      dropBlankEnd_append hafter]

/-- Blanks around a text make no difference to what is left when it is trimmed. -/
theorem trim_of_padded {text padded : String} (h : Padded text padded) :
    trim padded = trim text := by
  obtain ⟨before, after, rfl, hbefore, hafter⟩ := h
  rw [trim, trim, String.toList_append, String.toList_append, trimChars_append hbefore hafter]

/-- A text is what is left of it with blanks around. -/
theorem padded_trim (s : String) : Padded (trim s) s := by
  obtain ⟨after, hend, hafter⟩ := exists_dropBlankEnd_append (s.toList.dropWhile isBlank)
  refine ⟨String.ofList (s.toList.takeWhile isBlank), String.ofList after, ?_, ?_, ?_⟩
  · rw [← String.toList_inj, trim, trimChars]
    simp only [String.toList_append, String.toList_ofList]
    rw [List.append_assoc, ← hend, List.takeWhile_append_dropWhile]
  · rw [String.toList_ofList]
    exact fun c hc => List.all_eq_true.mp List.all_takeWhile c hc
  · rwa [String.toList_ofList]

/-- The texts that are trimmed to a text are those with blanks around it. -/
theorem padded_iff {text padded : String} (h : trim text = text) :
    Padded text padded ↔ trim padded = text := by
  constructor
  · exact fun hpadded => (trim_of_padded hpadded).trans h
  · rintro rfl
    exact padded_trim padded

/-! ### Parts of padded texts -/

section Parts

variable {sep : Char} (hsep : isBlank sep = false)
include hsep

/-- A blank in front of some characters ends up in front of their first part. -/
theorem map_trimChars_splitChars_cons {c : Char} (hc : isBlank c = true) (cs : List Char) :
    (splitChars sep (c :: cs)).map trimChars = (splitChars sep cs).map trimChars := by
  have hne : c ≠ sep := by
    rintro rfl
    rw [hc] at hsep
    cases hsep
  rw [splitChars]
  cases hparts : splitChars sep cs with
  | nil => exact absurd hparts (splitChars_ne_nil sep cs)
  | cons part parts =>
      have hpart : trimChars (c :: part) = trimChars part := by
        have hfront : ∀ d ∈ [c], isBlank d = true := by simpa using hc
        simpa using trimChars_append hfront (List.forall_mem_nil _) part
      simp only [hne, if_false, List.map_cons, hpart]

/-- Blanks behind some characters end up behind their last part. -/
theorem forall₂_splitChars_append {after : List Char} (hafter : ∀ c ∈ after, isBlank c = true)
    (cs : List Char) :
    List.Forall₂ (fun part part' => part' = part ∨ part' = part ++ after)
      (splitChars sep cs) (splitChars sep (cs ++ after)) := by
  induction cs with
  | nil =>
      have hnone : sep ∉ after := fun hmem => by
        rw [hafter sep hmem] at hsep
        cases hsep
      rw [List.nil_append, splitChars_eq_splitOn sep after, List.splitOn_eq_singleton hnone]
      exact .cons (.inr rfl) .nil
  | cons c rest ih =>
      rw [List.cons_append, splitChars, splitChars]
      generalize splitChars sep rest = parts at ih
      generalize splitChars sep (rest ++ after) = parts' at ih
      cases ih with
      | nil => exact .cons (.inl rfl) .nil
      | cons hfirst hrest =>
          by_cases hc : c = sep
          · simp only [hc, if_true]
            exact .cons (.inl rfl) (.cons hfirst hrest)
          · simp only [hc, if_false]
            exact .cons (hfirst.imp (congrArg (c :: ·)) (congrArg (c :: ·))) hrest

/-- To trim a text before it is cut makes no difference to its parts without the blanks around
them. -/
theorem map_trim_splitOn_trim (s : String) :
    (splitOn sep (trim s)).map trim = (splitOn sep s).map trim := by
  obtain ⟨before, after, hs, hbefore, hafter⟩ := padded_trim s
  have hbehind : ∀ cs, (splitChars sep (cs ++ after.toList)).map trimChars
      = (splitChars sep cs).map trimChars := by
    intro cs
    refine List.forall₂_eq_eq_eq ▸ ?_
    refine List.forall₂_map_left_iff.mpr (List.forall₂_map_right_iff.mpr ?_)
    refine (forall₂_splitChars_append hsep hafter cs).flip.imp fun part' part hpart => ?_
    rcases hpart with rfl | rfl
    · rfl
    · exact trimChars_append (List.forall_mem_nil _) hafter part
  have hfront : ∀ front : List Char, (∀ c ∈ front, isBlank c = true) → ∀ cs,
      (splitChars sep (front ++ cs)).map trimChars = (splitChars sep cs).map trimChars := by
    intro front hblank cs
    induction front with
    | nil => rfl
    | cons c front ih =>
        obtain ⟨hc, hrest⟩ := List.forall_mem_cons.mp hblank
        exact (map_trimChars_splitChars_cons hsep hc _).trans (ih hrest)
  -- Trimmed parts are told by their characters.
  have hchars : ∀ t : String, (splitOn sep t).map trim
      = ((splitChars sep t.toList).map trimChars).map String.ofList := by
    intro t
    simp [splitOn, trim, Function.comp_def]
  rw [hchars, hchars s, congrArg String.toList hs, String.toList_append, String.toList_append,
    List.append_assoc, hfront _ hbefore, hbehind]

end Parts

end IngressController.Text
