/-!
# Maps and sets keyed by text

A `TextMap` keeps one value for each of its keys and lists its entries in strictly increasing
order of the keys, by code point. A `TextSet` is such a map without values.

The lemmas at the end give each operation by what it does to a look-up.
-/

set_option autoImplicit false

namespace IngressController

/-! ### The order of texts -/

theorem Text.lt_trans {a b c : String} (h : a < b) (h' : b < c) : a < c :=
  String.lt_trans h h'

theorem Text.lt_of_not_lt_of_ne {a b : String} (h : ¬ a < b) (hne : a ≠ b) : b < a := by
  by_cases hba : b < a
  · exact hba
  · exact absurd (String.le_antisymm (String.not_lt.1 hba) (String.not_lt.1 h)) hne

/-! ### Maps -/

/-- A finite map from texts, its entries in strictly increasing order of their keys. -/
structure TextMap (α : Type) where
  entries : List (String × α) := []
  sorted : entries.Pairwise (fun x y => x.1 < y.1) := by exact List.Pairwise.nil

namespace TextMap

variable {α : Type}

instance : EmptyCollection (TextMap α) := ⟨{}⟩
instance : Inhabited (TextMap α) := ⟨∅⟩

@[ext] theorem ext {m m' : TextMap α} (h : m.entries = m'.entries) : m = m' := by
  cases m; cases m'; cases h; rfl

instance [DecidableEq α] : DecidableEq (TextMap α) := fun m m' =>
  decidable_of_iff (m.entries = m'.entries) ⟨ext, fun h => h ▸ rfl⟩

/-- The value of the first entry with a key. -/
def lookup (key : String) : List (String × α) → Option α
  | [] => none
  | (k, v) :: rest => if k = key then some v else lookup key rest

/-- The value of a key. -/
def get? (m : TextMap α) (key : String) : Option α :=
  lookup key m.entries

/-- Whether there is a value for a key. -/
def contains (m : TextMap α) (key : String) : Bool :=
  (m.get? key).isSome

/-- The keys in increasing order. -/
def keys (m : TextMap α) : List String :=
  m.entries.map (·.1)

/-- The values in increasing order of their keys. -/
def values (m : TextMap α) : List α :=
  m.entries.map (·.2)

/-- Puts an entry at its place in an ordered list, in place of one with the same key. -/
def insertEntry (key : String) (value : α) : List (String × α) → List (String × α)
  | [] => [(key, value)]
  | (k, v) :: rest =>
    if key = k then (key, value) :: rest
    else if key < k then (key, value) :: (k, v) :: rest
    else (k, v) :: insertEntry key value rest

theorem key_of_mem_insertEntry {key : String} {value : α} {entries : List (String × α)}
    {e : String × α} (h : e ∈ insertEntry key value entries) : e.1 = key ∨ e ∈ entries := by
  induction entries with
  | nil => simp_all [insertEntry]
  | cons x rest ih =>
    rw [insertEntry] at h
    split at h
    · rcases List.mem_cons.1 h with rfl | h
      · exact .inl rfl
      · exact .inr (List.mem_cons_of_mem _ h)
    · split at h
      · rcases List.mem_cons.1 h with rfl | h
        · exact .inl rfl
        · exact .inr h
      · rcases List.mem_cons.1 h with rfl | h
        · exact .inr (List.mem_cons_self ..)
        · exact (ih h).imp_right (List.mem_cons_of_mem _)

theorem pairwise_insertEntry (key : String) (value : α) {entries : List (String × α)}
    (h : entries.Pairwise (fun x y => x.1 < y.1)) :
    (insertEntry key value entries).Pairwise (fun x y => x.1 < y.1) := by
  induction entries with
  | nil => simp [insertEntry]
  | cons x rest ih =>
    obtain ⟨hx, hrest⟩ := List.pairwise_cons.1 h
    rw [insertEntry]
    split
    · next hk => exact List.pairwise_cons.2 ⟨fun y hy => by simpa [hk] using hx y hy, hrest⟩
    · next hk =>
      split
      · next hlt =>
        refine List.pairwise_cons.2 ⟨fun y hy => ?_, h⟩
        rcases List.mem_cons.1 hy with rfl | hy
        · exact hlt
        · exact Text.lt_trans hlt (hx y hy)
      · next hlt =>
        refine List.pairwise_cons.2 ⟨fun y hy => ?_, ih hrest⟩
        rcases key_of_mem_insertEntry hy with hy | hy
        · simpa [hy] using Text.lt_of_not_lt_of_ne hlt hk
        · exact hx y hy

/-- The map with a value set for a key. -/
def insert (m : TextMap α) (key : String) (value : α) : TextMap α where
  entries := insertEntry key value m.entries
  sorted := pairwise_insertEntry key value m.sorted

/-- The map with only the entries that satisfy `p`. -/
def filter (m : TextMap α) (p : String → α → Bool) : TextMap α where
  entries := m.entries.filter fun (k, v) => p k v
  sorted := m.sorted.filter _

/-- The map without a key. -/
def erase (m : TextMap α) (key : String) : TextMap α :=
  m.filter fun k _ => k != key

/-- The map with the given entries; of two with the same key the later one counts. -/
def ofList (entries : List (String × α)) : TextMap α :=
  entries.foldl (fun m e => m.insert e.1 e.2) ∅

/-! ### Look-ups -/

@[simp] theorem get?_empty (key : String) : (∅ : TextMap α).get? key = none := rfl

theorem lookup_insertEntry (key key' : String) (value : α) (entries : List (String × α)) :
    lookup key' (insertEntry key value entries) =
      if key = key' then some value else lookup key' entries := by
  induction entries with
  | nil => simp [insertEntry, lookup]
  | cons x rest ih =>
    rw [insertEntry]
    split
    · next hk => by_cases h : key = key' <;> simp_all [lookup]
    · next hk =>
      split
      · by_cases h : key = key' <;> simp_all [lookup]
      · rw [lookup, lookup, ih]
        by_cases h : key = key'
        · subst h
          simp [Ne.symm hk]
        · simp [h]

theorem get?_insert (m : TextMap α) (key key' : String) (value : α) :
    (m.insert key value).get? key' = if key = key' then some value else m.get? key' :=
  lookup_insertEntry key key' value m.entries

theorem lookup_filter_ne (key key' : String) (entries : List (String × α)) :
    lookup key' (entries.filter fun (k, _) => k != key) =
      if key = key' then none else lookup key' entries := by
  induction entries with
  | nil => simp [lookup]
  | cons x rest ih =>
    obtain ⟨k, v⟩ := x
    by_cases hk : k = key
    · subst hk
      by_cases h : k = key' <;> simp_all [lookup]
    · by_cases h : key = key'
      · subst h
        simp_all [lookup]
      · simp_all [lookup]

theorem get?_erase (m : TextMap α) (key key' : String) :
    (m.erase key).get? key' = if key = key' then none else m.get? key' :=
  lookup_filter_ne key key' m.entries

end TextMap

/-! ### Sets -/

/-- A finite set of texts, listed in strictly increasing order. -/
abbrev TextSet := TextMap Unit

namespace TextSet

/-- The set with one more member. -/
def add (s : TextSet) (text : String) : TextSet :=
  s.insert text ()

/-- The set of the members of a list. -/
def ofTexts (texts : List String) : TextSet :=
  texts.foldl add ∅

/-- The members of either set. -/
def union (s t : TextSet) : TextSet :=
  t.keys.foldl add s

end TextSet

end IngressController
