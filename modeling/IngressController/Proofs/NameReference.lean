import IngressController.NameReference
import IngressController.Proofs.Text.Fields

/-!
# `IngressController.Proofs.NameReference`: where a reference is taken apart

A loose reference is put together from a namespace and a name and taken apart again at its first
slash. It comes apart as it was put together if there is no slash in the namespace; the name may
have as many as it likes, and may be empty, as may the namespace. A strict reference has no other
slash than the one between its parts, and neither part is empty.

* `cut?_eq_some_iff` and `cut?_eq_none_iff`: what cutting a text gives, for every text.
* `IsStrict` and `parse?_eq_some_iff`: the strict references, and how a text is read as one.
-/

set_option autoImplicit false

namespace IngressController.NameReference

/-- A text comes apart into a namespace without a slash and what stands behind the slash after
it. -/
theorem cut?_eq_some_iff {text : String} {r : NameReference} :
    cut? text = some r ↔ text = r.print ∧ '/' ∉ r.namespaceName.toList := by
  obtain ⟨namespaceName, name⟩ := r
  have hprint : text = NameReference.print ⟨namespaceName, name⟩
      ↔ text.toList = namespaceName.toList ++ '/' :: name.toList := by
    rw [← String.toList_inj, print]
    simp
  rw [hprint, ← Text.splitCharsOnce_eq_some_iff, cut?, Text.splitOnce]
  cases Text.splitCharsOnce '/' text.toList with
  | none => simp
  | some parts =>
      obtain ⟨before, after⟩ := parts
      simp only [Option.map_some, Option.some.injEq, mk.injEq, Prod.mk.injEq,
        ← String.toList_inj, String.toList_ofList]

/-- Only a text without a slash cannot be cut. -/
theorem cut?_eq_none_iff {text : String} : cut? text = none ↔ '/' ∉ text.toList := by
  rw [cut?, Text.splitOnce, Option.map_eq_none_iff, Option.map_eq_none_iff,
    Text.splitCharsOnce_eq_none_iff]

/-! ### Strict references -/

/-- A text is a strict reference: it has a slash between two parts that are not empty, and no other
slash. -/
structure IsStrict (text : String) (r : NameReference) : Prop where
  parts : text = r.print
  namespace_ne : r.namespaceName ≠ ""
  name_ne : r.name ≠ ""
  single : '/' ∉ r.namespaceName.toList ∧ '/' ∉ r.name.toList

/-- The parts of a text with one slash are what stands around it. -/
theorem splitOn_eq_parts_iff {text : String} {r : NameReference} :
    Text.splitOn '/' text = [r.namespaceName, r.name]
      ↔ text = r.print ∧ '/' ∉ r.namespaceName.toList ∧ '/' ∉ r.name.toList := by
  have hprint : (String.singleton '/').intercalate [r.namespaceName, r.name] = r.print := by
    rw [print, ← String.toList_inj]
    simp
  rw [Text.splitOn_eq_iff (List.cons_ne_nil _ _), hprint]
  simp only [List.forall_mem_cons, List.not_mem_nil, false_imp_iff, forall_const, and_true]

/-- A text is read as the strict reference that it is. -/
theorem parse?_eq_some_iff {text : String} {r : NameReference} :
    parse? text = some r ↔ IsStrict text r := by
  constructor
  · intro h
    rw [parse?] at h
    split at h
    · next namespaceName name hsplit =>
        split at h
        · cases h
        · next hne =>
            cases h
            obtain ⟨hnamespace, hname⟩ := not_or.mp hne
            obtain ⟨htext, hsingle⟩ := splitOn_eq_parts_iff (r := ⟨namespaceName, name⟩).mp hsplit
            exact ⟨htext, hnamespace, hname, hsingle⟩
    · cases h
  · intro h
    rw [parse?, splitOn_eq_parts_iff.mpr ⟨h.parts, h.single⟩]
    exact if_neg (not_or.mpr ⟨h.namespace_ne, h.name_ne⟩)

/-- A text that is none is not read. -/
theorem parse?_eq_none_iff {text : String} : parse? text = none ↔ ∀ r, ¬ IsStrict text r := by
  simp only [Option.eq_none_iff_forall_ne_some, ne_eq, parse?_eq_some_iff]

end IngressController.NameReference
