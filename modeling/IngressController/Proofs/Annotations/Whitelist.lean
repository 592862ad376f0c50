import IngressController.Proofs.AllowList
import IngressController.Proofs.Annotations.Equality

/-!
# `IngressController.Proofs.Annotations.Whitelist`: who may reach an Ingress

The annotation says which addresses may reach an Ingress, and a list of canonical forms takes its
place. What matters of either is the set of addresses that it lets in. The two sets are the same,
although networks are truncated on the way, the entries are sorted as texts and equal ones become
one.

* `Names`: a text between two commas of the annotation, blanks around it dropped, is an entry.
* `denotes_iff`: the list of the annotation denotes what its entries denote, so the addresses that
  it lets in and the forms that it leaves depend on the set of its entries alone.
* `KeepsClients` and `keepsClients`: the clients of every Ingress are those of its annotation, and
  the location is denied exactly if there is an annotation without an entry.
-/

set_option autoImplicit false

namespace IngressController.Annotations.Whitelist

open Object (Ingress)
open Address AllowList

/-- A text between two commas is an address or a network if blanks around it are dropped. -/
def Names (value part : String) : Prop :=
  part ∈ (Text.splitOn ',' value).map Text.trim ∧ (Entry.parse? part).isSome = true

theorem denotes_iff (value : String) (e : Entry) :
    Parsed.Denotes (Text.splitOn ',' value) e ↔
      ∃ part, Names value part ∧ Entry.parse? part = some e := by
  constructor
  · rintro ⟨text, htext, hread⟩
    refine ⟨Text.trim text, ⟨List.mem_map_of_mem htext, ?_⟩, hread⟩
    rw [show Entry.parse? (Text.trim text) = some e from hread]
    rfl
  · rintro ⟨part, ⟨hpart, -⟩, hparse⟩
    obtain ⟨text, htext, rfl⟩ := List.mem_map.mp hpart
    exact ⟨text, htext, hparse⟩

/-- Some text between two commas is an entry. -/
theorem exists_denotes_iff (value : String) :
    (∃ e, Parsed.Denotes (Text.splitOn ',' value) e) ↔ ∃ part, Names value part := by
  simp only [denotes_iff]
  constructor
  · rintro ⟨e, part, hpart, -⟩
    exact ⟨part, hpart⟩
  · rintro ⟨part, hpart⟩
    obtain ⟨e, hparse⟩ := Option.isSome_iff_exists.mp hpart.2
    exact ⟨e, part, hpart, hparse⟩

/-- An entry of the annotation is written without blanks around it. -/
theorem Names.trim {value part : String} (h : Names value part) : Text.trim part = part := by
  obtain ⟨text, -, rfl⟩ := List.mem_map.mp h.1
  exact Text.trim_trim text

/-- The forms let in what the entries of the annotation let in. -/
theorem matches_sorted_iff (value : String) (ip : Ip) :
    (∃ form ∈ (Parsed.ofTexts (Text.splitOn ',' value)).sorted, Matches form ip) ↔
      ∃ part, Names value part ∧ Matches part ip := by
  constructor
  · rintro ⟨form, hform, hmatches⟩
    obtain ⟨e, hdenotes, rfl⟩ := (Parsed.mem_sorted_iff _ form).mp hform
    have hadmits : e.Admits ip := (matches_print hdenotes.canonical).mp hmatches
    obtain ⟨part, hpart, hparse⟩ := (denotes_iff value e).mp hdenotes
    refine ⟨part, hpart, matches_iff.mpr ⟨e, ?_, hadmits⟩⟩
    rw [Entry.read?, hpart.trim, hparse]
  · rintro ⟨part, hpart, hmatches⟩
    obtain ⟨e, hread, hadmits⟩ := matches_iff.mp hmatches
    rw [Entry.read?, hpart.trim] at hread
    have hdenotes := (denotes_iff value e).mpr ⟨part, hpart, hread⟩
    exact ⟨e.print, (Parsed.mem_sorted_iff _ e.print).mpr ⟨e, hdenotes, rfl⟩,
      (matches_print hdenotes.canonical).mpr hadmits⟩

/-! ### What is resolved -/

/-- The text of the annotation. -/
def text? (ing : Ingress) : Option String :=
  ing.metadata.annotationText? Key.whitelistSourceRange.name

section Resolve

variable (backend : DefaultBackend) {ing : Ingress} {value : String}

theorem textOf_eq (h : text? ing = some value) :
    textOf ing Key.whitelistSourceRange.name = .ok value := by
  rw [textOf, show ing.metadata.annotationText? Key.whitelistSourceRange.name = some value from h]

/-- If the annotation has an entry, the forms are the clients. -/
theorem value_resolve_of_names (h : text? ing = some value) (hnames : ∃ part, Names value part) :
    (resolve backend ing).value =
      .ok { cidr := (Parsed.ofTexts (Text.splitOn ',' value)).sorted } := by
  have hvalid := (Parsed.hasValid_ofTexts _).mpr ((exists_denotes_iff value).mpr hnames)
  rw [value_resolve, Clients.ofIngress, textOf_eq h]
  simp only
  rw [hvalid]
  rfl

/-- If it has none, the location is denied. -/
theorem value_resolve_of_not_names (h : text? ing = some value)
    (hnone : ∀ part, ¬ Names value part) :
    (resolve backend ing).value = .error (.denied value (inherited backend)) := by
  have hvalid : ¬ (Parsed.ofTexts (Text.splitOn ',' value)).hasValid = true := by
    rw [Parsed.hasValid_ofTexts, exists_denotes_iff]
    exact not_exists.mpr hnone
  rw [value_resolve, Clients.ofIngress, textOf_eq h]
  simp only
  rw [Bool.not_eq_true _ |>.mp hvalid]
  rfl

/-- Without the annotation the list of the default backend holds. -/
theorem value_resolve_of_none (h : text? ing = none) :
    (resolve backend ing).value = .ok (inherited backend) := by
  have htext : textOf ing Key.whitelistSourceRange.name = .error .missing := by
    rw [textOf, show ing.metadata.annotationText? Key.whitelistSourceRange.name = none from h]
  rw [value_resolve, Clients.ofIngress, htext]

/-- There are these three outcomes. -/
theorem value_resolve_cases (ing : Ingress) :
    (text? ing = none ∧ (resolve backend ing).value = .ok (inherited backend)) ∨
      (∃ value, text? ing = some value ∧ (∃ part, Names value part) ∧
        (resolve backend ing).value =
          .ok { cidr := (Parsed.ofTexts (Text.splitOn ',' value)).sorted }) ∨
      ∃ value, text? ing = some value ∧ (∀ part, ¬ Names value part) ∧
        (resolve backend ing).value = .error (.denied value (inherited backend)) := by
  cases htext : text? ing with
  | none => exact .inl ⟨rfl, value_resolve_of_none backend htext⟩
  | some value =>
      by_cases hnames : ∃ part, Names value part
      · exact .inr (.inl ⟨value, rfl, hnames, value_resolve_of_names backend htext hnames⟩)
      · have hnone := not_exists.mp hnames
        exact .inr (.inr ⟨value, rfl, hnone, value_resolve_of_not_names backend htext hnone⟩)

theorem pairwise_inherited : (inherited backend).cidr.Pairwise (· ≤ ·) := by
  have htrans : ∀ a b c : String, decide (a ≤ b) = true → decide (b ≤ c) = true →
      decide (a ≤ c) = true := by
    simp only [decide_eq_true_eq]
    exact fun a b c => String.le_trans
  have htotal : ∀ a b : String, (decide (a ≤ b) || decide (b ≤ a)) = true := by
    simp only [Bool.or_eq_true, decide_eq_true_eq]
    exact String.le_total
  exact (List.pairwise_mergeSort htrans htotal backend.whitelistSourceRange).imp of_decide_eq_true

end Resolve

/-- What the clients of an Ingress have to do with its annotation. -/
structure KeepsClients (backend : DefaultBackend) (ing : Ingress) : Prop where
  /-- If the annotation has an entry, there is a list of clients in strictly increasing order, and
  it lets in exactly the addresses that the entries of the annotation let in. -/
  letsIn : ∀ value, text? ing = some value → (∃ part, Names value part) →
    ∃ range, (resolve backend ing).value = .ok range ∧ range.cidr.Pairwise (· < ·) ∧
      ∀ ip, (∃ form ∈ range.cidr, Matches form ip) ↔ ∃ part, Names value part ∧ Matches part ip
  /-- Annotations with the same entries lead to the same list, wherever they stand. -/
  byEntries : ∀ value value' backend' ing', text? ing = some value → text? ing' = some value' →
    (∃ part, Names value part) → (∀ part, Names value part ↔ Names value' part) →
      (resolve backend' ing').value = (resolve backend ing).value
  /-- The location is denied exactly if there is an annotation without an entry, and the list of
  the default backend takes its place. There is no other error. -/
  denied : ∀ e, (resolve backend ing).value = .error e ↔
    ∃ value, text? ing = some value ∧ (∀ part, ¬ Names value part) ∧
      e = .denied value (inherited backend)
  /-- That list comes sorted. -/
  fallback : (inherited backend).cidr.Pairwise (· ≤ ·) ∧
    (inherited backend).cidr.Perm backend.whitelistSourceRange

/-- The clients of every Ingress are those that its annotation lets in. -/
theorem keepsClients (backend : DefaultBackend) (ing : Ingress) : KeepsClients backend ing where
  letsIn := fun value htext hnames =>
    ⟨_, value_resolve_of_names backend htext hnames, TextMap.pairwise_keys _,
      matches_sorted_iff value⟩
  byEntries := by
    intro value value' backend' ing' htext htext' hnames hsame
    have hnames' : ∃ part, Names value' part := by
      obtain ⟨part, hpart⟩ := hnames
      exact ⟨part, (hsame part).mp hpart⟩
    have hdenotes : ∀ e, Parsed.Denotes (Text.splitOn ',' value') e ↔
        Parsed.Denotes (Text.splitOn ',' value) e := by
      intro e
      rw [denotes_iff, denotes_iff]
      exact exists_congr fun part => and_congr_left' (hsame part).symm
    rw [value_resolve_of_names backend htext hnames,
      value_resolve_of_names backend' htext' hnames', Parsed.sorted_congr hdenotes]
  denied := by
    intro e
    cases htext : text? ing with
    | none =>
        rw [value_resolve_of_none backend htext]
        simp
    | some value =>
        by_cases hnames : ∃ part, Names value part
        · rw [value_resolve_of_names backend htext hnames]
          refine iff_of_false (fun he => by cases he) ?_
          rintro ⟨value', hvalue', hnone, -⟩
          cases hvalue'
          exact (not_exists.mpr hnone) hnames
        · have hnone := not_exists.mp hnames
          rw [value_resolve_of_not_names backend htext hnone]
          constructor
          · intro he
            cases he
            exact ⟨value, rfl, hnone, rfl⟩
          · rintro ⟨value', hvalue', -, rfl⟩
            cases hvalue'
            rfl
  fallback := ⟨pairwise_inherited backend, List.mergeSort_perm _ _⟩

/-- A list with blanks around its entries, a network that is named twice, a text that is no entry
and an address of one family that stands for one of the other. -/
def paddedList : String :=
  "10.1.2.3/8, fe80::/10x,10.0.0.0/8 ,::ffff:1.2.3.4"

def paddedIngress : Ingress :=
  Key.ingressWith [(.whitelistSourceRange, paddedList)]

/-- It lets in an address of the network. The IPv4 address inside an IPv6 address stays out. -/
theorem letsIn_of_paddedIngress :
    ∃ range, (resolve {} paddedIngress).value = .ok range ∧ range.cidr.Pairwise (· < ·) ∧
      (∃ form ∈ range.cidr, Matches form (Ip.ofOctets [10, 200, 0, 7])) ∧
      (∃ form ∈ range.cidr, Matches form (Ip.ofGroups [0, 0, 0, 0, 0, 0xffff, 0x102, 0x304])) ∧
      ¬ ∃ form ∈ range.cidr, Matches form (Ip.ofOctets [1, 2, 3, 4]) := by
  have hnetwork : Names paddedList "10.1.2.3/8" := ⟨by decide +kernel, by decide +kernel⟩
  have haddress : Names paddedList "::ffff:1.2.3.4" := ⟨by decide +kernel, by decide +kernel⟩
  have hnone : ∀ part ∈ (Text.splitOn ',' paddedList).map Text.trim,
      ¬ Matches part (Ip.ofOctets [1, 2, 3, 4]) := by
    decide +kernel
  obtain ⟨range, hrange, hsorted, hletsIn⟩ :=
    (keepsClients {} paddedIngress).letsIn paddedList (by decide +kernel) ⟨_, hnetwork⟩
  refine ⟨range, hrange, hsorted, (hletsIn _).mpr ⟨_, hnetwork, by decide +kernel⟩,
    (hletsIn _).mpr ⟨_, haddress, by decide +kernel⟩, ?_⟩
  rw [hletsIn]
  rintro ⟨part, hpart, hmatches⟩
  exact hnone part hpart.1 hmatches

end IngressController.Annotations.Whitelist
