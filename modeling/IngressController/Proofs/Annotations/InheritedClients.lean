import IngressController.Proofs.Annotations.Whitelist
import IngressController.Proofs.DefaultBackend

/-!
# `IngressController.Proofs.Annotations.InheritedClients`: the form of a list of clients

The clients of an Ingress should be a list in canonical form (`InForm`): addresses and networks that
are read without a change, in increasing order, none of them twice. Such a list can be rendered as
it is and compared entry by entry.

A list of the Ingress itself is in this form. It has been read entry by entry, and what was read is
printed anew. The list of the default backend takes another way: it is cut at the commas, sorted,
and handed on as texts, both to an Ingress without a list and, out of the error, to one whose list
cannot be read. So a text that is no address, a network that is not truncated and an entry that is
there twice get through.

* `inForm_iff`: a list is in canonical form exactly if reading it leaves it as it is.
* `clients_extract_of_namesClients` and `clients_extract_of_not`: on which way an Ingress gets its
  clients.
* `inForm_extract_iff`: for which Ingresses and which config maps the clients are in this form.
-/

set_option autoImplicit false

namespace IngressController

/-! ### Lists in canonical form -/

namespace AllowList

/-- A text is the canonical form of an address or a network: it is read without a change. -/
def IsForm (text : String) : Prop :=
  (Parsed.ofTexts [text]).sorted = [text]

instance (text : String) : Decidable (IsForm text) :=
  inferInstanceAs (Decidable (_ = _))

/-- A list holds canonical forms in increasing order, none of them twice. -/
structure InForm (cidr : List String) : Prop where
  isForm : ∀ text ∈ cidr, IsForm text
  increasing : cidr.Pairwise (· < ·)

theorem isForm_iff {text : String} : IsForm text ↔ ∃ e : Entry, e.Canonical ∧ e.print = text := by
  constructor
  · intro h
    have hmem : text ∈ (Parsed.ofTexts [text]).sorted := by
      rw [show (Parsed.ofTexts [text]).sorted = [text] from h]
      exact List.mem_singleton_self text
    obtain ⟨e, hdenotes, hprint⟩ := (Parsed.mem_sorted_iff [text] text).mp hmem
    exact ⟨e, hdenotes.canonical, hprint⟩
  · rintro ⟨e, hcanonical, rfl⟩
    exact Parsed.sorted_singleton (Entry.read?_print hcanonical)

/-- What comes out of reading a list is in canonical form. -/
theorem inForm_sorted (texts : List String) : InForm (Parsed.ofTexts texts).sorted where
  isForm := by
    intro text htext
    obtain ⟨e, hdenotes, hprint⟩ := (Parsed.mem_sorted_iff texts text).mp htext
    exact isForm_iff.mpr ⟨e, hdenotes.canonical, hprint⟩
  increasing := TextMap.pairwise_keys _

/-- A strictly increasing list is an increasing one without repetitions. -/
theorem pairwise_lt_iff {texts : List String} :
    texts.Pairwise (· < ·) ↔ texts.Pairwise (· ≤ ·) ∧ texts.Nodup := by
  rw [List.Nodup, ← List.pairwise_and_iff]
  refine ⟨fun h => h.imp fun {a b} hlt => ?_, fun h => h.imp fun {a b} hle => ?_⟩
  · exact ⟨Std.le_of_lt hlt, Std.ne_of_lt hlt⟩
  · exact Text.lt_of_not_lt_of_ne (String.not_lt.mpr hle.1) (Ne.symm hle.2)

/-- A list is in canonical form exactly if reading it leaves it as it is. -/
theorem inForm_iff {cidr : List String} :
    InForm cidr ↔ (Parsed.ofTexts cidr).sorted = cidr := by
  constructor
  · intro h
    have hsorted := inForm_sorted cidr
    have hmem : ∀ form, form ∈ (Parsed.ofTexts cidr).sorted ↔ form ∈ cidr := by
      intro form
      rw [Parsed.mem_sorted_iff_singleton]
      constructor
      · rintro ⟨text, htext, hform⟩
        rw [show (Parsed.ofTexts [text]).sorted = [text] from h.isForm text htext] at hform
        rwa [List.mem_singleton.mp hform]
      · intro hform
        refine ⟨form, hform, ?_⟩
        rw [show (Parsed.ofTexts [form]).sorted = [form] from h.isForm form hform]
        exact List.mem_singleton_self form
    obtain ⟨hle, hnodup⟩ := pairwise_lt_iff.mp h.increasing
    obtain ⟨hle', hnodup'⟩ := pairwise_lt_iff.mp hsorted.increasing
    exact ((List.perm_ext_iff_of_nodup hnodup' hnodup).mpr hmem).eq_of_pairwise
      (fun a b _ _ => String.le_antisymm) hle' hle
  · intro h
    rw [← h]
    exact inForm_sorted cidr

instance (cidr : List String) : Decidable (InForm cidr) :=
  decidable_of_iff _ inForm_iff.symm

end AllowList

namespace Annotations

open Object AllowList
open Whitelist (Names text?)

/-! ### Two ways to a list -/

/-- An Ingress has a list of clients with an entry in it. -/
def NamesClients (ing : Ingress) : Prop :=
  ∃ value, text? ing = some value ∧ ∃ part, Names value part

instance (ing : Ingress) : Decidable (NamesClients ing) :=
  decidable_of_iff
    ((text? ing).any (fun value => (Parsed.ofTexts (Text.splitOn ',' value)).hasValid) = true) <| by
    simp only [NamesClients, Option.any_eq_true, Parsed.hasValid_ofTexts,
      Whitelist.exists_denotes_iff]

section Extract

variable (s : Surroundings) {ing : Ingress}

/-- The entries of a list of its own are read and printed anew. -/
theorem clients_extract_of_namesClients (h : NamesClients ing) :
    ∃ value, text? ing = some value ∧ (extract s ing).value.whitelist.cidr
      = (Parsed.ofTexts (Text.splitOn ',' value)).sorted := by
  obtain ⟨value, htext, hnames⟩ := h
  have hget := get_extract s ing .whitelist
  rw [Feature.resolve, Whitelist.value_resolve_of_names s.backend htext hnames] at hget
  exact ⟨value, htext, congrArg SourceRange.cidr hget⟩

/-- Where there is none, the list of the default backend comes as it is, but sorted. -/
theorem clients_extract_of_not (h : ¬ NamesClients ing) :
    (extract s ing).value.whitelist = Whitelist.inherited s.backend := by
  have hget := get_extract s ing .whitelist
  rw [Feature.resolve] at hget
  rcases Whitelist.value_resolve_cases s.backend ing with
    ⟨-, hvalue⟩ | ⟨value, htext, hnames, -⟩ | ⟨value, -, -, hvalue⟩
  · rw [hvalue] at hget
    exact hget
  · exact absurd ⟨value, htext, hnames⟩ h
  · rw [hvalue] at hget
    exact hget

end Extract

/-- Surroundings with the default backend that a config map describes. -/
def Surroundings.ofData (data : TextMap String) (certificate? : String → Option Certificate) :
    Surroundings where
  backend := (DefaultBackend.ofData data).value
  certificate? := certificate?

/-- The list of clients in a config map: the parts between commas that are not blank. -/
def clientsOfData (data : TextMap String) : List String :=
  DefaultBackend.listSetting data "whitelist-source-range"

/-- The inherited list is in canonical form exactly if that of the config map holds canonical forms,
none of them twice. -/
theorem inForm_inherited_iff (data : TextMap String) :
    InForm (Whitelist.inherited (DefaultBackend.ofData data).value).cidr
      ↔ (∀ text ∈ clientsOfData data, IsForm text) ∧ (clientsOfData data).Nodup := by
  have hperm : (Whitelist.inherited (DefaultBackend.ofData data).value).cidr.Perm
      (clientsOfData data) := by
    rw [clientsOfData, ← DefaultBackend.whitelistSourceRange_ofData]
    exact List.mergeSort_perm _ _
  rw [← hperm.nodup_iff]
  constructor
  · intro h
    exact ⟨fun text htext => h.isForm text (hperm.mem_iff.mpr htext),
      (pairwise_lt_iff.mp h.increasing).2⟩
  · rintro ⟨hform, hnodup⟩
    exact ⟨fun text htext => hform text (hperm.mem_iff.mp htext),
      pairwise_lt_iff.mpr ⟨Whitelist.pairwise_inherited _, hnodup⟩⟩

/-- The clients of an Ingress are in canonical form exactly if it has a list with an entry, or the
config map has canonical forms in its list, none of them twice. In any case they come sorted. -/
theorem inForm_extract_iff (data : TextMap String) (certificate? : String → Option Certificate)
    (ing : Ingress) :
    (InForm (extract (.ofData data certificate?) ing).value.whitelist.cidr
        ↔ NamesClients ing ∨
          (∀ text ∈ clientsOfData data, IsForm text) ∧ (clientsOfData data).Nodup) ∧
      (extract (.ofData data certificate?) ing).value.whitelist.cidr.Pairwise (· ≤ ·) := by
  by_cases hnames : NamesClients ing
  · obtain ⟨value, -, hclients⟩ :=
      clients_extract_of_namesClients (.ofData data certificate?) hnames
    have hform := inForm_sorted (Text.splitOn ',' value)
    rw [hclients]
    exact ⟨iff_of_true hform (.inl hnames), (pairwise_lt_iff.mp hform.increasing).1⟩
  · rw [clients_extract_of_not _ hnames, or_iff_right hnames]
    exact ⟨inForm_inherited_iff data, Whitelist.pairwise_inherited _⟩

/-- A config map with a text that is no address, and with a network that is not truncated twice. -/
def carelessData : TextMap String :=
  TextMap.ofList [("whitelist-source-range", "www, 10.1.2.3/8, 10.1.2.3/8")]

/-- An Ingress without a list of its own gets all three, and one whose list cannot be read is no
better off. As an annotation the same list comes down to one network. -/
theorem not_inForm_of_carelessData :
    (extract (.ofData carelessData fun _ => none) {}).value.whitelist.cidr.Perm
        ["www", "10.1.2.3/8", "10.1.2.3/8"] ∧
      ¬ InForm (extract (.ofData carelessData fun _ => none) {}).value.whitelist.cidr ∧
      ¬ InForm (extract (.ofData carelessData fun _ => none)
        (Key.ingressWith [(.whitelistSourceRange, "everyone")])).value.whitelist.cidr ∧
      (extract (.ofData carelessData fun _ => none) (Key.ingressWith [(.whitelistSourceRange,
        "www, 10.1.2.3/8, 10.1.2.3/8")])).value.whitelist.cidr = ["10.0.0.0/8"] := by
  refine ⟨?_, ?_, ?_, by decide +kernel⟩
  · have hdata : clientsOfData carelessData = ["www", "10.1.2.3/8", "10.1.2.3/8"] := by
      decide +kernel
    rw [clients_extract_of_not _ (by decide +kernel)]
    exact (List.mergeSort_perm _ _).trans (List.Perm.of_eq hdata)
  · rw [(inForm_extract_iff carelessData (fun _ => none) _).1]
    decide +kernel
  · rw [(inForm_extract_iff carelessData (fun _ => none) _).1]
    decide +kernel

end Annotations

end IngressController
