import IngressController.Proofs.Annotations.InheritedClients
import Mathlib.Data.Fintype.EquivFin
import Mathlib.Data.List.Duplicate

/-!
# `IngressController.Proofs.Annotations.Comparison`: comparing configurations from either side

Whether a configuration has changed is asked of the new one about the old one, or the other way
round, and of one version about the next. So the answer should be the same from both sides, and it
should carry over from version to version. For a list of clients it should be whether both lists
have the same entries.

It does carry over, and everything is the same as itself. But lists of clients are compared by their
length and by an inclusion, from one side only. A list with an entry twice counts as the same as one
that has another entry in place of the second, and that one does not count as the same as the first.
Only a list without repetitions is told from all others by its entries.

* `ComparedOneWay`: when a comparison that carries over is from both sides.
* `SourceRange.comparedOneWay` and `Resolved.comparedOneWay`: for lists of clients and whole
  configurations; `ComparedOneWay.some` and `ComparedOneWay.none`: for values that may be missing.
* `SourceRange.sameAs_iff_mem_iff`: the lists that are compared by their entries.
* `extract_symm_iff`: the Ingresses that are resolved to a configuration of this kind.
* `Comparisons` and `comparisons`: all of these together.
-/

set_option autoImplicit false

namespace IngressController.Annotations

open Object AllowList

/-! ### Comparisons -/

/-- A value is the same as itself, and what it is the same as carries over. It is compared from both
sides with all others exactly under a condition. -/
structure ComparedOneWay {α : Type} (same : α → α → Bool) (a : α) (IsExact : Prop) : Prop where
  refl : same a a = true
  trans : ∀ b c, same a b = true → same b c = true → same a c = true
  symm_iff : (∀ b, same a b = true → same b a = true) ↔ IsExact

section Option

variable {α : Type} {same : α → α → Bool}

/-- Where values may be missing, one that is there is compared as before. -/
theorem ComparedOneWay.some {a : α} {IsExact : Prop} (h : ComparedOneWay same a IsExact) :
    ComparedOneWay (sameOption same) (some a) IsExact where
  refl := h.refl
  trans := by
    rintro (_ | b) (_ | c) hab hbc
    case some.some => exact h.trans b c hab hbc
    all_goals simp [sameOption] at hab hbc
  symm_iff := by
    rw [← h.symm_iff]
    constructor
    · exact fun hsymm b hab => hsymm (Option.some b) hab
    · rintro hsymm (_ | b) hab
      · cases hab
      · exact hsymm b hab

/-- A missing value is the same as itself only. -/
theorem ComparedOneWay.none : ComparedOneWay (sameOption same) Option.none True where
  refl := rfl
  trans := by
    rintro (_ | b) c hab hbc
    · exact hbc
    · cases hab
  symm_iff := by
    refine iff_of_true ?_ trivial
    rintro (_ | b) hab
    · rfl
    · cases hab

end Option

/-! ### Lists of clients -/

/-- In place of a second occurrence a list can have an entry that was not there. -/
theorem exists_replacement {texts : List String} (h : ¬ texts.Nodup) :
    ∃ others : List String, texts.length = others.length ∧ texts ⊆ others ∧ ¬ others ⊆ texts := by
  obtain ⟨text, hduplicate⟩ := List.exists_duplicate_iff_not_nodup.mpr h
  have hcount : 2 ≤ texts.count text := List.duplicate_iff_two_le_count.mp hduplicate
  have hmem : text ∈ texts := List.count_pos_iff.mp (by omega)
  obtain ⟨fresh, hfresh⟩ := Infinite.exists_notMem_finset texts.toFinset
  refine ⟨fresh :: texts.erase text, ?_, ?_, ?_⟩
  · have hlength : 0 < texts.length := List.length_pos_of_mem hmem
    rw [List.length_cons, List.length_erase_of_mem hmem]
    omega
  · intro other hother
    refine List.mem_cons_of_mem _ ?_
    by_cases heq : other = text
    · -- One occurrence has been left.
      rw [heq, ← List.count_pos_iff, List.count_erase_self]
      omega
    · exact (List.mem_erase_of_ne heq).mpr hother
  · intro hsub
    exact hfresh (List.mem_toFinset.mpr (hsub List.mem_cons_self))

namespace SourceRange

/-- A list is compared from both sides if it has no repetitions. -/
theorem comparedOneWay (a : SourceRange) : ComparedOneWay sameAs a a.cidr.Nodup where
  refl := sameAs_of_perm (List.Perm.refl a.cidr)
  trans := by
    intro b c hab hbc
    obtain ⟨hlength, hsub⟩ := sameAs_iff.mp hab
    obtain ⟨hlength', hsub'⟩ := sameAs_iff.mp hbc
    exact sameAs_iff.mpr ⟨hlength.trans hlength', List.Subset.trans hsub hsub'⟩
  symm_iff := by
    constructor
    · intro hsymm
      by_contra hnodup
      obtain ⟨others, hlength, hsub, hnot⟩ := exists_replacement hnodup
      have hback := hsymm { cidr := others } (sameAs_iff.mpr ⟨hlength, hsub⟩)
      exact hnot (sameAs_iff.mp hback).2
    · intro hnodup b hab
      exact sameAs_of_perm (perm_of_sameAs hab hnodup).symm

/-- A list without repetitions is told from all such lists by its entries, and no other list is. -/
theorem sameAs_iff_mem_iff (a : SourceRange) :
    (∀ b : SourceRange, b.cidr.Nodup →
        (a.sameAs b = true ↔ ∀ client, client ∈ a.cidr ↔ client ∈ b.cidr)) ↔ a.cidr.Nodup := by
  constructor
  · intro h
    have hmem : ∀ client, client ∈ a.cidr ↔ client ∈ a.cidr.dedup :=
      fun client => List.mem_dedup.symm
    have hsame := (h { cidr := a.cidr.dedup } a.cidr.nodup_dedup).mpr hmem
    -- A list that is as long as without its repetitions has none.
    have hself : a.cidr.dedup = a.cidr :=
      a.cidr.dedup_sublist.eq_of_length (sameAs_iff.mp hsame).1.symm
    exact List.dedup_eq_self.mp hself
  · intro hnodup b hnodup'
    rw [← List.perm_ext_iff_of_nodup hnodup hnodup']
    exact ⟨fun h => perm_of_sameAs h hnodup, sameAs_of_perm⟩

end SourceRange

/-! ### Whole configurations -/

namespace Resolved

/-- A configuration with another list of clients. -/
theorem sameAs_set_whitelist_iff (r : Resolved) (clients : SourceRange) :
    (r.sameAs (r.set .whitelist clients) = true ↔ r.whitelist.sameAs clients = true) ∧
      ((r.set .whitelist clients).sameAs r = true ↔ clients.sameAs r.whitelist = true) := by
  have hothers : ∀ f, f ≠ .whitelist → (r.set .whitelist clients).get f = r.get f :=
    fun f hf => r.get_set_of_ne clients hf
  rw [sameAs_iff, sameAs_iff, and_iff_right hothers,
    and_iff_right fun f hf => (hothers f hf).symm]
  exact ⟨Iff.rfl, Iff.rfl⟩

/-- A whole configuration is compared from both sides if it names no client twice. -/
theorem comparedOneWay (r : Resolved) : ComparedOneWay sameAs r r.whitelist.cidr.Nodup where
  refl := (sameAs_iff r r).mpr ⟨fun _ _ => rfl, r.whitelist.comparedOneWay.refl⟩
  trans := by
    intro b c hab hbc
    obtain ⟨hconfigs, hclients⟩ := (sameAs_iff r b).mp hab
    obtain ⟨hconfigs', hclients'⟩ := (sameAs_iff b c).mp hbc
    exact (sameAs_iff r c).mpr ⟨fun f hf => (hconfigs f hf).trans (hconfigs' f hf),
      r.whitelist.comparedOneWay.trans _ _ hclients hclients'⟩
  symm_iff := by
    rw [← r.whitelist.comparedOneWay.symm_iff]
    constructor
    · -- All that another list can be compared with is compared with it within the configuration.
      intro hsymm clients hclients
      obtain ⟨hto, hback⟩ := r.sameAs_set_whitelist_iff clients
      exact hback.mp (hsymm _ (hto.mpr hclients))
    · intro hsymm b hab
      obtain ⟨hconfigs, hclients⟩ := (sameAs_iff r b).mp hab
      exact (sameAs_iff b r).mpr ⟨fun f hf => (hconfigs f hf).symm, hsymm _ hclients⟩

end Resolved

/-! ### Ingresses -/

/-- Surroundings with another list of clients in the default backend. -/
def Surroundings.withClients (s : Surroundings) (clients : List String) : Surroundings :=
  { s with backend := { s.backend with whitelistSourceRange := clients } }

/-- The list of the default backend makes no difference to a feature other than the clients. -/
theorem Feature.resolve_withClients (s : Surroundings) (clients : List String) (ing : Ingress)
    {f : Feature} (hf : f ≠ .whitelist) : f.resolve (s.withClients clients) ing = f.resolve s ing := by
  cases f <;> first | exact absurd rfl hf | rfl

/-- The clients of an Ingress are listed without repetitions exactly if it has a list with an entry,
or the default backend names no client twice. -/
theorem nodup_clients_iff (s : Surroundings) (ing : Ingress) :
    (extract s ing).value.whitelist.cidr.Nodup
      ↔ NamesClients ing ∨ s.backend.whitelistSourceRange.Nodup := by
  by_cases hnames : NamesClients ing
  · obtain ⟨value, -, hclients⟩ := clients_extract_of_namesClients s hnames
    rw [hclients]
    exact iff_of_true (pairwise_lt_iff.mp (inForm_sorted _).increasing).2 (.inl hnames)
  · rw [clients_extract_of_not s hnames, or_iff_right hnames]
    exact (List.mergeSort_perm _ _).nodup_iff

/-- The configuration of an Ingress is compared from both sides with those of all others, in all
surroundings, exactly if it has a list with an entry, or the default backend names no client
twice. -/
theorem extract_symm_iff (s : Surroundings) (ing : Ingress) :
    (∀ s' ing', (extract s ing).value.sameAs (extract s' ing').value = true →
        (extract s' ing').value.sameAs (extract s ing).value = true)
      ↔ NamesClients ing ∨ s.backend.whitelistSourceRange.Nodup := by
  constructor
  · intro hsymm
    by_contra hnot
    obtain ⟨hnames, hnodup⟩ := not_or.mp hnot
    -- The same Ingress, with another text in place of one that the default backend has twice.
    obtain ⟨others, hlength, hsub, hfresh⟩ := exists_replacement hnodup
    have hclients := clients_extract_of_not s hnames
    have hclients' := clients_extract_of_not (s.withClients others) hnames
    have hperm := List.mergeSort_perm s.backend.whitelistSourceRange (fun a b => decide (a ≤ b))
    have hperm' := List.mergeSort_perm others (fun a b => decide (a ≤ b))
    have hconfigs : ∀ f, f ≠ .whitelist →
        (extract s ing).value.get f = (extract (s.withClients others) ing).value.get f := by
      intro f hf
      rw [get_extract, get_extract, Feature.resolve_withClients s others ing hf]
    have hsame := hsymm (s.withClients others) ing <| (Resolved.sameAs_iff _ _).mpr
      ⟨hconfigs, by
        rw [hclients, hclients']
        refine SourceRange.sameAs_iff.mpr ⟨?_, ?_⟩
        · exact hperm.length_eq.trans (hlength.trans hperm'.length_eq.symm)
        · exact List.Subset.trans (List.Subset.trans hperm.subset hsub) hperm'.symm.subset⟩
    have hback := ((Resolved.sameAs_iff _ _).mp hsame).2
    rw [hclients, hclients'] at hback
    have hsub' := List.Subset.trans hperm'.symm.subset (SourceRange.sameAs_iff.mp hback).2
    exact hfresh (List.Subset.trans hsub' hperm.subset)
  · intro h s' ing'
    exact (extract s ing).value.comparedOneWay.symm_iff.mpr ((nodup_clients_iff s ing).mpr h) _

/-! ### All comparisons -/

/-- How a list of clients and a configuration are compared with others. Both are the same as
themselves, and what they are the same as carries over; they are compared from both sides, and the
list by its entries, if they name no client twice. -/
structure Comparisons (a : SourceRange) (r : Resolved) : Prop where
  /-- The list with all lists. -/
  list : ComparedOneWay SourceRange.sameAs a a.cidr.Nodup
  /-- The list with lists that may be missing. -/
  someList : ComparedOneWay (sameOption SourceRange.sameAs) (some a) a.cidr.Nodup
  /-- A missing list. -/
  noList : ComparedOneWay (sameOption SourceRange.sameAs) none True
  /-- By its entries a list is compared with those that name no client twice if it names none
  twice either. -/
  byEntries :
    (∀ b : SourceRange, b.cidr.Nodup →
        (a.sameAs b = true ↔ ∀ client, client ∈ a.cidr ↔ client ∈ b.cidr)) ↔ a.cidr.Nodup
  /-- The configuration with all configurations. The other parts of it are compared from both sides
  in any case. -/
  config : ComparedOneWay Resolved.sameAs r r.whitelist.cidr.Nodup
  /-- The configuration with configurations that may be missing. -/
  someConfig : ComparedOneWay (sameOption Resolved.sameAs) (some r) r.whitelist.cidr.Nodup
  /-- A missing configuration. -/
  noConfig : ComparedOneWay (sameOption Resolved.sameAs) none True
  /-- The configuration of an Ingress is compared from both sides with those of all others, in all
  surroundings, if it has a list with an entry, or the default backend names no client twice. -/
  extracted : ∀ (s : Surroundings) (ing : Ingress),
    (∀ s' ing', (extract s ing).value.sameAs (extract s' ing').value = true →
        (extract s' ing').value.sameAs (extract s ing).value = true)
      ↔ NamesClients ing ∨ s.backend.whitelistSourceRange.Nodup

/-- All comparisons carry over, and each of them is from both sides exactly for what names no client
twice. -/
theorem comparisons (a : SourceRange) (r : Resolved) : Comparisons a r where
  list := a.comparedOneWay
  someList := a.comparedOneWay.some
  noList := .none
  byEntries := a.sameAs_iff_mem_iff
  config := r.comparedOneWay
  someConfig := r.comparedOneWay.some
  noConfig := .none
  extracted := extract_symm_iff

/-- A network that is listed twice is compared from one side: the list counts as the same as one
that has an address in place of the second, and that one not as the same as the first. -/
theorem not_sameAs_of_repeated :
    let twice : SourceRange := { cidr := ["10.0.0.0/8", "10.0.0.0/8"] }
    let mixed : SourceRange := { cidr := ["10.0.0.0/8", "10.0.0.1"] }
    twice.sameAs mixed = true ∧ mixed.sameAs twice = false
      ∧ ¬ ∀ b, twice.sameAs b = true → b.sameAs twice = true := by
  refine ⟨by decide, by decide, fun hsymm => ?_⟩
  exact absurd ((comparisons _ {}).list.symm_iff.mp hsymm) (by decide)

end IngressController.Annotations
