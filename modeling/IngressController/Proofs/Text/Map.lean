import IngressController.Text.Map
import Mathlib.Data.List.Nodup

/-!
# `IngressController.Proofs.Text.Map`: maps and sets by their look-ups

A map keeps its entries in strictly increasing order of their keys, so it is determined by what its
look-ups give, whatever has been done to it before.

* `TextMap.get?_eq_some_iff`: a look-up finds exactly the entries of the map.
* `TextMap.ext_get?`: two maps with the same look-ups are the same map.
* `TextMap.pairwise_keys` and `TextMap.mem_keys_iff`: the keys of a map, in order.
* `TextMap.erase_congr`: two maps that agree on all keys but one are the same without that key.
* `TextSet.contains_add` and its companions: each operation on sets by its members.
-/

set_option autoImplicit false

namespace IngressController

namespace TextMap

variable {α : Type}

/-! ### Entries -/

/-- The keys of a map come in strictly increasing order. -/
theorem pairwise_keys (m : TextMap α) : m.keys.Pairwise (· < ·) :=
  List.pairwise_map.mpr m.sorted

/-- A map has at most one entry for each key. -/
theorem nodup_keys (m : TextMap α) : m.keys.Nodup := by
  rw [List.nodup_iff_pairwise_ne]
  refine m.pairwise_keys.imp fun {x y} hlt heq => ?_
  rw [heq] at hlt
  exact String.lt_irrefl _ hlt

/-- In an ordered list of entries, a look-up finds exactly those that are in it. -/
theorem lookup_eq_some_iff {entries : List (String × α)}
    (h : entries.Pairwise fun x y => x.1 < y.1) (key : String) (value : α) :
    lookup key entries = some value ↔ (key, value) ∈ entries := by
  induction entries with
  | nil => simp [lookup]
  | cons x rest ih =>
      obtain ⟨hx, hrest⟩ := List.pairwise_cons.1 h
      rw [lookup, List.mem_cons]
      by_cases hkey : x.1 = key
      · -- The entries after this one have greater keys.
        have hnot : (key, value) ∉ rest := by
          intro hmem
          have hlt := hx _ hmem
          rw [hkey] at hlt
          exact String.lt_irrefl _ hlt
        rw [if_pos hkey, or_iff_left hnot]
        constructor
        · intro hvalue
          cases hvalue
          rw [← hkey]
        · rintro rfl
          rfl
      · have hne : (key, value) ≠ x := fun heq => hkey (congrArg Prod.fst heq).symm
        rw [if_neg hkey, ih hrest, or_iff_right hne]

/-- A look-up finds exactly the entries of a map. -/
theorem get?_eq_some_iff (m : TextMap α) (key : String) (value : α) :
    m.get? key = some value ↔ (key, value) ∈ m.entries :=
  lookup_eq_some_iff m.sorted key value

/-- The values of a map are what its look-ups find. -/
theorem mem_values_iff (m : TextMap α) (value : α) :
    value ∈ m.values ↔ ∃ key, m.get? key = some value := by
  rw [values, List.mem_map]
  constructor
  · rintro ⟨⟨key, value⟩, hmem, rfl⟩
    exact ⟨key, (m.get?_eq_some_iff key value).mpr hmem⟩
  · rintro ⟨key, hget⟩
    exact ⟨(key, value), (m.get?_eq_some_iff key value).mp hget, rfl⟩

/-- The keys of a map are those that have a value. -/
theorem mem_keys_iff (m : TextMap α) (key : String) : key ∈ m.keys ↔ m.contains key = true := by
  rw [keys, List.mem_map, contains, Option.isSome_iff_exists]
  constructor
  · rintro ⟨⟨key, value⟩, hmem, rfl⟩
    exact ⟨value, (m.get?_eq_some_iff key value).mpr hmem⟩
  · rintro ⟨value, hget⟩
    exact ⟨(key, value), (m.get?_eq_some_iff key value).mp hget, rfl⟩

/-- A map is not empty if a key has a value. -/
theorem isEmpty_entries_eq_false_iff (m : TextMap α) :
    m.entries.isEmpty = false ↔ ∃ key, m.contains key = true := by
  rw [List.isEmpty_eq_false_iff_exists_mem]
  constructor
  · rintro ⟨⟨key, value⟩, hmem⟩
    exact ⟨key, (m.mem_keys_iff key).mp (List.mem_map_of_mem hmem)⟩
  · rintro ⟨key, hkey⟩
    obtain ⟨entry, hmem, -⟩ := List.mem_map.mp ((m.mem_keys_iff key).mpr hkey)
    exact ⟨entry, hmem⟩

/-- Two maps with the same look-ups are the same map. -/
theorem ext_get? {m m' : TextMap α} (h : ∀ key, m.get? key = m'.get? key) : m = m' := by
  have hnodup : ∀ m : TextMap α, m.entries.Nodup := fun m => List.Nodup.of_map _ m.nodup_keys
  have hperm : m.entries.Perm m'.entries := by
    rw [List.perm_ext_iff_of_nodup (hnodup m) (hnodup m')]
    rintro ⟨key, value⟩
    rw [← m.get?_eq_some_iff, ← m'.get?_eq_some_iff, h]
  -- Of two entries only one can come before the other.
  refine ext (hperm.eq_of_pairwise (fun x y _ _ hxy hyx => ?_) m.sorted m'.sorted)
  exact absurd (Text.lt_trans hxy hyx) (String.lt_irrefl _)

/-! ### Operations -/

/-- A filtered map has the values of the keys that pass. -/
theorem get?_filter (m : TextMap α) (p : String → α → Bool) (key : String) :
    (m.filter p).get? key = (m.get? key).filter (p key) := by
  refine Option.ext fun value => ?_
  rw [get?_eq_some_iff, Option.filter_eq_some_iff, get?_eq_some_iff]
  exact List.mem_filter

/-- Two maps that agree on all keys but one are the same without that key. -/
theorem erase_congr {m m' : TextMap α} {key : String}
    (h : ∀ key', key' ≠ key → m'.get? key' = m.get? key') : m'.erase key = m.erase key := by
  refine ext_get? fun key' => ?_
  rw [get?_erase, get?_erase]
  split
  · rfl
  · next hne => exact h key' (Ne.symm hne)

/-- Without a key a map has fewer entries, in the same order. -/
theorem entries_erase_sublist (m : TextMap α) (key : String) :
    (m.erase key).entries.Sublist m.entries :=
  List.filter_sublist

end TextMap

namespace TextSet

/-- The empty set has no members. -/
theorem contains_empty (text : String) : (∅ : TextSet).contains text = false := rfl

/-- A member that is added is the only new one. -/
theorem contains_add (s : TextSet) (text text' : String) :
    (s.add text).contains text' = true ↔ text = text' ∨ s.contains text' = true := by
  rw [add, TextMap.contains, TextMap.get?_insert, TextMap.contains]
  split
  · next h => simp [h]
  · next h => simp [h]

/-- A member that is erased is the only one that goes. -/
theorem contains_erase (s : TextSet) (text text' : String) :
    (TextMap.erase s text).contains text' = true ↔ text ≠ text' ∧ s.contains text' = true := by
  rw [TextMap.contains, TextMap.get?_erase, TextMap.contains]
  split
  · next h => simp [h]
  · next h => simp [h]

/-- The members of a filtered set are those that pass. -/
theorem contains_filter (s : TextSet) (p : String → Bool) (text : String) :
    (TextMap.filter s fun key _ => p key).contains text = true
      ↔ s.contains text = true ∧ p text = true := by
  rw [TextMap.contains, TextMap.get?_filter, TextMap.contains]
  cases s.get? text <;> simp [Option.filter]

/-- Members that are added one after the other are the only new ones. -/
theorem contains_foldl_add (texts : List String) (s : TextSet) (text : String) :
    (texts.foldl add s).contains text = true ↔ text ∈ texts ∨ s.contains text = true := by
  induction texts generalizing s with
  | nil => simp
  | cons first rest ih =>
      rw [List.foldl_cons, ih, contains_add, List.mem_cons, eq_comm (a := first)]
      exact or_left_comm.trans or_assoc.symm

/-- The members of the set of a list are the texts in the list. -/
theorem contains_ofTexts (texts : List String) (text : String) :
    (ofTexts texts).contains text = true ↔ text ∈ texts := by
  rw [ofTexts, contains_foldl_add, contains_empty]
  simp

/-- The members of a union are those of either set. -/
theorem contains_union (s t : TextSet) (text : String) :
    (s.union t).contains text = true ↔ s.contains text = true ∨ t.contains text = true := by
  rw [union, contains_foldl_add, t.mem_keys_iff]
  exact or_comm

/-- Two sets with the same members are the same set. -/
theorem ext_contains {s t : TextSet}
    (h : ∀ text, s.contains text = true ↔ t.contains text = true) : s = t := by
  refine TextMap.ext_get? fun text => ?_
  have hsome : (s.get? text).isSome = (t.get? text).isSome := Bool.eq_iff_iff.mpr (h text)
  cases hs : s.get? text <;> cases ht : t.get? text <;> simp_all

end TextSet

end IngressController
