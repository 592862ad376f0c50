import IngressController.Stores

/-!
# `IngressController.Proofs.Stores`: a store has each object once

Objects are told apart by their namespaces and names. A store that follows what happens to the
objects of its kind never has two versions of one. Nor do two of its objects share a key, if all of
them are in a namespace whose name has no slash.

* `Store.Separate.apply` and `Store.Separate.delete`: what happens to an object leaves the others
  apart.
* `Metadata.IsNamed.sameObject_iff`: the key tells such objects apart.
* `Store.find?_eq_some` and `Store.Separate.find?_eq_some_iff`: what a look-up finds.
-/

set_option autoImplicit false

namespace IngressController

namespace Object.Metadata

/-- Two objects are the same one exactly if their namespaces and their names are. -/
theorem sameObject_iff (m m' : Metadata) :
    m.sameObject m' = true ↔ m.namespaceName = m'.namespaceName ∧ m.nameText = m'.nameText := by
  rw [sameObject, Bool.and_eq_true, beq_iff_eq, beq_iff_eq]

/-- An object is at a place exactly if the namespace and the name are its own. -/
theorem isAt_iff (m : Metadata) (namespaceName name : String) :
    m.isAt namespaceName name = true
      ↔ m.namespaceName = some namespaceName ∧ m.nameText = name := by
  rw [isAt, isIn, Bool.and_eq_true, beq_iff_eq, beq_iff_eq]

/-- An object is in a namespace, and the name of the namespace has no slash. -/
def IsNamed (m : Metadata) : Prop :=
  ∃ namespaceName, m.namespaceName = some namespaceName ∧ '/' ∉ namespaceName.toList

/-- A key is cut into namespace and name at its first slash. -/
theorem splitCharsOnce_key {m : Metadata} {namespaceName : String}
    (h : m.namespaceName = some namespaceName) (hslash : '/' ∉ namespaceName.toList) :
    Text.splitCharsOnce '/' m.key.toList = some (namespaceName.toList, m.nameText.toList) := by
  rw [Text.splitCharsOnce_eq_some_iff, key, namespaceText, h]
  refine ⟨?_, hslash⟩
  simp

/-- Objects in namespaces are the same one exactly if their keys are. -/
theorem IsNamed.sameObject_iff {m m' : Metadata} (h : m.IsNamed) (h' : m'.IsNamed) :
    m.sameObject m' = true ↔ m.key = m'.key := by
  obtain ⟨ns, hns, hslash⟩ := h
  obtain ⟨ns', hns', hslash'⟩ := h'
  rw [Metadata.sameObject_iff, hns, hns', Option.some.injEq]
  constructor
  · rintro ⟨rfl, hname⟩
    rw [key, key, namespaceText, namespaceText, hns, hns', hname]
  · intro hkey
    have hcut := splitCharsOnce_key hns hslash
    rw [hkey, splitCharsOnce_key hns' hslash', Option.some.injEq, Prod.mk.injEq] at hcut
    exact ⟨(String.toList_inj.mp hcut.1).symm, (String.toList_inj.mp hcut.2).symm⟩

end Object.Metadata

open Object

namespace Store

variable {α : Type} {metadata : α → Metadata} {store : Store α}

/-- A store has each object once. -/
def Separate (store : Store α) (metadata : α → Metadata) : Prop :=
  store.objects.Pairwise fun a b => (metadata a).sameObject (metadata b) = false

/-- An object comes into a list by being put there. -/
theorem mem_replaceOrAdd {object a : α} {objects : List α}
    (h : a ∈ replaceOrAdd metadata object objects) : a = object ∨ a ∈ objects := by
  induction objects with
  | nil => exact .inl (List.mem_singleton.mp h)
  | cons old rest ih =>
      rw [replaceOrAdd] at h
      split at h
      · exact (List.mem_cons.mp h).imp_right (List.mem_cons_of_mem _)
      · rcases List.mem_cons.mp h with rfl | h
        · exact .inr (List.mem_cons_self ..)
        · exact (ih h).imp_right (List.mem_cons_of_mem _)

/-- An object that is added or changed leaves the objects apart. -/
theorem Separate.apply (h : store.Separate metadata) (object : α) :
    (store.apply metadata object).Separate metadata := by
  obtain ⟨objects⟩ := store
  rw [Separate] at h ⊢
  show (replaceOrAdd metadata object objects).Pairwise _
  induction objects with
  | nil => exact List.pairwise_singleton _ _
  | cons old rest ih =>
      obtain ⟨hold, hrest⟩ := List.pairwise_cons.mp h
      rw [replaceOrAdd]
      split
      · next hsame =>
          -- What is apart from the old version is apart from the new one.
          refine List.pairwise_cons.mpr ⟨fun a ha => ?_, hrest⟩
          obtain ⟨hns, hname⟩ := (Metadata.sameObject_iff _ _).mp hsame
          have hapart := hold a ha
          rwa [Metadata.sameObject, hns, hname] at hapart
      · next hsame =>
          refine List.pairwise_cons.mpr ⟨fun a ha => ?_, ih hrest⟩
          rcases mem_replaceOrAdd ha with rfl | ha
          · exact eq_false_of_ne_true hsame
          · exact hold a ha

/-- An object that is deleted leaves the others apart. -/
theorem Separate.delete (h : store.Separate metadata) (object : α) :
    (store.delete metadata object).Separate metadata :=
  h.sublist List.filter_sublist

/-- The keys of such a store are distinct if all of its objects are in namespaces. -/
theorem Separate.pairwise_key_ne (h : store.Separate metadata)
    (hnamed : ∀ a ∈ store.objects, (metadata a).IsNamed) :
    store.objects.Pairwise fun a b => (metadata a).key ≠ (metadata b).key :=
  h.imp_of_mem fun ha hb hapart hkey => by
    rw [← (hnamed _ ha).sameObject_iff (hnamed _ hb), hapart] at hkey
    exact Bool.false_ne_true hkey

/-- What a look-up finds is in the store, under the namespace and the name that were looked up. -/
theorem find?_eq_some {namespaceName name : String} {object : α}
    (h : store.find? metadata namespaceName name = some object) :
    object ∈ store.objects ∧ (metadata object).namespaceName = some namespaceName
      ∧ (metadata object).nameText = name := by
  have hplace := List.find?_some h
  exact ⟨List.mem_of_find?_eq_some h, (Metadata.isAt_iff _ _ _).mp hplace⟩

/-- In a store that has each object once a look-up finds whatever is there. -/
theorem Separate.find?_eq_some_iff (h : store.Separate metadata) {namespaceName name : String}
    {object : α} :
    store.find? metadata namespaceName name = some object
      ↔ object ∈ store.objects ∧ (metadata object).namespaceName = some namespaceName
        ∧ (metadata object).nameText = name := by
  refine ⟨find?_eq_some, fun ⟨hmem, hplace⟩ => ?_⟩
  obtain ⟨before, after, hobjects⟩ := List.append_of_mem hmem
  rw [Separate, hobjects, List.pairwise_append] at h
  refine List.find?_eq_some_iff_append.mpr
    ⟨(Metadata.isAt_iff _ _ _).mpr hplace, before, after, hobjects, fun other hother => ?_⟩
  -- Were one before it found, it would be the same object.
  have hapart := h.2.2 other hother object (List.mem_cons_self ..)
  rw [Bool.not_eq_true', ← Bool.not_eq_true, Metadata.isAt_iff]
  rintro ⟨hns, hname⟩
  rw [← Bool.not_eq_true, Metadata.sameObject_iff] at hapart
  exact hapart ⟨hns.trans hplace.1.symm, hname.trans hplace.2.symm⟩

end Store

end IngressController
