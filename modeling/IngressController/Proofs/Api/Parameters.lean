import IngressController.Api.Location
import IngressController.Proofs.Text.Fields
import IngressController.Proofs.Text.FormEncoding

/-!
# `IngressController.Proofs.Api.Parameters`: the parameters of a request are read back

A place is put together as one text and read again. As long as no question mark and no hash sign
ends its path too early, what stands behind the path are the parameters that were given, in their
order, and each value is read as it was, whatever characters it has.

* `Location.eq_of_withParameters`: the path and the parameters of a place.
* `Location.value?_of_withParameters`: the values that are read from it.
-/

set_option autoImplicit false

namespace IngressController.Api

/-- A text that can be the path of a place: nothing in it ends the path. -/
structure IsPath (path : String) : Prop where
  noQuestion : '?' ∉ path.toList
  noHash : '#' ∉ path.toList

instance (path : String) : Decidable (IsPath path) :=
  decidable_of_iff ('?' ∉ path.toList ∧ '#' ∉ path.toList)
    ⟨fun h => ⟨h.1, h.2⟩, fun h => ⟨h.noQuestion, h.noHash⟩⟩

/-- A text that can be the name of a parameter. -/
def IsParameterName (name : String) : Prop :=
  ∀ c ∈ name.toList, Text.isFormKept c = true

instance (name : String) : Decidable (IsParameterName name) :=
  decidable_of_iff (name.toList.all Text.isFormKept = true) List.all_eq_true

namespace Location

/-- The characters of a parameter. -/
theorem of_mem_parameter {name : String} (hname : IsParameterName name) {value : String} {c : Char}
    (h : c ∈ (parameter name value).toList) : Text.isFormChar c = true ∨ c = '=' := by
  simp only [parameter, String.toList_append, List.mem_append] at h
  rcases h with (h | h) | h
  · refine .inl ?_
    rw [Text.isFormChar, hname c h]
    rfl
  · exact .inr (by simpa using h)
  · exact .inl (Text.isFormChar_of_mem_formEncode h)

/-- Parts with a separator in front of each are an empty part and these, joined. -/
theorem intercalate_nil_cons {α : Type} (sep : α) (parts : List (List α)) :
    [sep].intercalate ([] :: parts) = parts.flatMap (sep :: ·) := by
  have hjoin : ∀ (first : List α) (parts : List (List α)),
      [sep].intercalate (first :: parts) = first ++ parts.flatMap (sep :: ·) := by
    intro first parts
    induction parts generalizing first with
    | nil => simp [List.intercalate]
    | cons part parts ih =>
        have hstep : [sep].intercalate (first :: part :: parts)
            = first ++ sep :: [sep].intercalate (part :: parts) := by
          simp [List.intercalate]
        rw [hstep, ih, List.flatMap_cons, List.cons_append]
  exact hjoin [] parts

section Read

variable {path : String} {parameters : List (String × String)} {l : Location}

/-- Parameters as they stand in a place. -/
def written (parameters : List (String × String)) : List String :=
  parameters.map fun p => parameter p.1 p.2

/-- What stands behind the question mark of a place: the parameters with an ampersand in front of
each, which is an empty text and the parameters, joined. -/
theorem join_written (parameters : List (String × String)) :
    String.join (parameters.map fun (name, value) => "&" ++ parameter name value)
      = (String.singleton '&').intercalate ("" :: written parameters) := by
  rw [← String.toList_inj, String.toList_intercalate, List.map_cons, String.toList_singleton,
    String.toList_empty, intercalate_nil_cons]
  induction parameters with
  | nil => rfl
  | cons p parameters ih => simp_all [written]

/-- No mark that divides a query is in one of its parameters. -/
theorem notMem_of_written (hnames : ∀ p ∈ parameters, IsParameterName p.1) {mark : Char}
    (hmark : Text.isFormChar mark = false ∧ mark ≠ '=') :
    ∀ text ∈ written parameters, mark ∉ text.toList := by
  intro text htext hmem
  obtain ⟨p, hp, rfl⟩ := List.mem_map.mp htext
  rcases of_mem_parameter (hnames p hp) hmem with h | h
  · rw [hmark.1] at h
    cases h
  · exact hmark.2 h

/-- A place is cut at its first question mark if it has no hash sign. -/
theorem parse_eq_ok (hpath : IsPath path) {query : String} (hquery : '#' ∉ query.toList)
    (h : parse (path ++ "?" ++ query) = .ok l) :
    l = { path, parameters := (Text.splitOn '&' query).filter (· ≠ "") } := by
  have htext : (path ++ "?" ++ query).toList = path.toList ++ '?' :: query.toList := by simp
  have hends : ∀ c ∈ path.toList, (!(c == '?' || c == '#')) = true := by
    intro c hc
    have hquestion : c ≠ '?' := fun heq => hpath.noQuestion (heq ▸ hc)
    have hhash : c ≠ '#' := fun heq => hpath.noHash (heq ▸ hc)
    simp [hquestion, hhash]
  have hfront : (path ++ "?" ++ query).toList.takeWhile (fun c => !(c == '?' || c == '#'))
      = path.toList := by
    rw [htext, List.takeWhile_append_of_pos hends]
    simp
  have hrest : (path ++ "?" ++ query).toList.dropWhile (fun c => !(c == '?' || c == '#'))
      = '?' :: query.toList := by
    rw [htext, List.dropWhile_append_of_pos hends]
    rfl
  have hwhole : query.toList.takeWhile (· ≠ '#') = query.toList :=
    List.takeWhile_eq_self_iff.mpr fun c hc => by
      simpa using fun heq : c = '#' => hquery (heq ▸ hc)
  unfold parse at h
  simp only [hfront, hrest, hwhole, String.ofList_toList] at h
  split at h
  · cases h
  · split at h
    · exact (Except.ok.inj h).symm
    · cases h

/-- The path and the parameters of a place are those that it was put together from. -/
theorem eq_of_withParameters (hpath : IsPath path)
    (hnames : ∀ p ∈ parameters, IsParameterName p.1) (h : withParameters path parameters = .ok l) :
    l = { path, parameters := written parameters } := by
  have hcut : Text.splitOn '&' ((String.singleton '&').intercalate ("" :: written parameters))
      = "" :: written parameters := by
    refine Text.splitOn_intercalate (List.cons_ne_nil _ _) (List.forall_mem_cons.mpr ⟨by simp, ?_⟩)
    exact notMem_of_written hnames (by decide)
  have hhash :
      '#' ∉ ((String.singleton '&').intercalate ("" :: written parameters)).toList := by
    rw [String.toList_intercalate, List.map_cons, String.toList_singleton, String.toList_empty,
      intercalate_nil_cons, List.mem_flatMap]
    rintro ⟨part, hpart, hmem⟩
    obtain ⟨text, htext, rfl⟩ := List.mem_map.mp hpart
    rcases List.mem_cons.mp hmem with hmem | hmem
    · exact absurd hmem (by decide)
    · exact notMem_of_written hnames (by decide) text htext hmem
  have hfull : ∀ text ∈ written parameters, text ≠ "" := by
    rintro text htext rfl
    obtain ⟨p, -, hp⟩ := List.mem_map.mp htext
    have hmem : '=' ∈ (parameter p.1 p.2).toList := by simp [parameter]
    rw [hp] at hmem
    exact List.not_mem_nil hmem
  rw [withParameters, join_written] at h
  rw [parse_eq_ok hpath hhash h, hcut, List.filter_cons_of_neg (by simp)]
  congr 1
  exact List.filter_eq_self.mpr fun text htext => by simpa using hfull text htext

/-- The values that are read from a place are those that it was put together with. -/
theorem value?_of_withParameters (hpath : IsPath path)
    (hnames : ∀ p ∈ parameters, IsParameterName p.1) (h : withParameters path parameters = .ok l)
    (name : String) : l.value? name = parameters.lookup name := by
  have hcut : ∀ p ∈ parameters, Text.splitOnce '=' (parameter p.1 p.2)
      = some (p.1, Text.formEncode p.2) := by
    intro p hp
    have hchars : Text.splitCharsOnce '=' (parameter p.1 p.2).toList
        = some (p.1.toList, (Text.formEncode p.2).toList) := by
      refine Text.splitCharsOnce_eq_some_iff.mpr ⟨by simp [parameter], fun hmem => ?_⟩
      exact absurd (hnames p hp _ hmem) (by decide)
    rw [Text.splitOnce, hchars]
    simp only [Option.map_some, String.ofList_toList]
  rw [eq_of_withParameters hpath hnames h, value?, written, List.filterMap_map]
  clear h hnames
  induction parameters with
  | nil => rfl
  | cons p parameters ih =>
      obtain ⟨hp, hrest⟩ := List.forall_mem_cons.mp hcut
      have hcons : (p :: parameters).filterMap (Text.splitOnce '=' ∘ fun p => parameter p.1 p.2)
          = (p.1, Text.formEncode p.2)
            :: parameters.filterMap (Text.splitOnce '=' ∘ fun p => parameter p.1 p.2) :=
        List.filterMap_cons_some hp
      rw [hcons, List.lookup_cons, List.lookup_cons, ← ih hrest]
      cases name == p.1 with
      | true => exact congrArg some (Text.formDecode_formEncode p.2)
      | false => rfl

end Read

end Location

end IngressController.Api
