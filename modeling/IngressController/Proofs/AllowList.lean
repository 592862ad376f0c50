import IngressController.AllowList
import IngressController.Proofs.Address.Grammar
import IngressController.Proofs.Address.RoundTrip
import IngressController.Proofs.Text.Fields
import IngressController.Proofs.Text.Map
import Mathlib.Logic.ExistsUnique

/-!
# `IngressController.Proofs.AllowList`: the canonical forms of an allow list

The canonical form of an entry is a text of the same grammars that the entry was read by, and it
denotes the entry that it was printed from. So the forms of a list can be read again without a
change, and two entries have one form only if they are one entry. The reader tries networks before
addresses. As no text is both, nothing is lost by that order.

* `Entry.parse?_print` and `Entry.print_inj`: a canonical entry and its form determine each other.
* `Matches`, `matches_iff` and `matches_print`: the addresses that a text lets in are those that
  its entry admits, and those that the canonical form of the entry lets in.
* `Parsed.contains_forms`, `Parsed.invalid_ofTexts` and `Parsed.has_iff`: what reading a list
  leaves in each of the three places.
* `Parsed.mem_sorted_iff` and `Parsed.denotes_sorted`: the forms that come out are the forms of the
  entries that went in, and they denote these entries.
* `KeepsForms` and `keepsForms`: the forms of every list are a fixed point of reading it, the form
  of an entry tells it from all others, and every text ends up in one place.
-/

set_option autoImplicit false

namespace IngressController.AllowList

open Address

/-! ### Entries and their forms -/

namespace Entry

/-- The entry that a text denotes if blanks around it are ignored. -/
def read? (text : String) : Option Entry :=
  parse? (Text.trim text)

/-- A network in a canonical entry is truncated. -/
def Canonical : Entry → Prop
  | network net => net.truncate = net
  | address _ => True

theorem parse?_of_network {s : String} {net : Network} (h : Network.parse? s = some net) :
    parse? s = some (network net.truncate) := by
  rw [parse?, h]

theorem parse?_of_address {s : String} {ip : Ip} (h : Ip.parse? s = some ip) :
    parse? s = some (address ip) := by
  rw [parse?, Network.parse?_eq_none_of_address h, h]
  rfl

/-- A text denotes an entry by one of the two grammars. -/
theorem parse?_eq_some_iff {s : String} {e : Entry} :
    parse? s = some e ↔
      (∃ net, Network.parse? s = some net ∧ e = network net.truncate) ∨
        ∃ ip, Ip.parse? s = some ip ∧ e = address ip := by
  constructor
  · intro h
    unfold parse? at h
    split at h
    · next net hnet =>
        cases h
        exact .inl ⟨net, hnet, rfl⟩
    · obtain ⟨ip, hip, heq⟩ := Option.map_eq_some_iff.mp h
      exact .inr ⟨ip, hip, heq.symm⟩
  · rintro (⟨net, hnet, rfl⟩ | ⟨ip, hip, rfl⟩)
    · exact parse?_of_network hnet
    · exact parse?_of_address hip

theorem canonical_of_parse? {s : String} {e : Entry} (h : parse? s = some e) : e.Canonical := by
  rcases parse?_eq_some_iff.mp h with ⟨net, -, rfl⟩ | ⟨ip, -, rfl⟩
  · exact net.truncate_truncate
  · trivial

/-- The form of a canonical entry denotes the entry. -/
theorem parse?_print {e : Entry} (h : e.Canonical) : parse? e.print = some e := by
  cases e with
  | network net =>
      have htruncate : net.truncate = net := h
      exact (parse?_of_network net.parse?_print).trans (by rw [htruncate])
  | address ip => exact parse?_of_address ip.parse?_print

/-- Canonical entries with one form are one entry. -/
theorem print_inj {e e' : Entry} (h : e.Canonical) (h' : e'.Canonical) :
    e.print = e'.print ↔ e = e' := by
  constructor
  · intro hprint
    have hparse : some e = some e' := by rw [← parse?_print h, ← parse?_print h', hprint]
    exact Option.some.inj hparse
  · exact congrArg print

/-- A form has no blanks around it. -/
theorem trim_print (e : Entry) : Text.trim e.print = e.print := by
  cases e with
  | network net => exact Text.trim_of_notBlank net.visible_print
  | address ip => exact Text.trim_of_notBlank ip.visible_print

/-- The form of a canonical entry is read as the entry. -/
theorem read?_print {e : Entry} (h : e.Canonical) : read? e.print = some e := by
  rw [read?, trim_print, parse?_print h]

theorem parse?_empty : parse? "" = none := by decide

end Entry

/-! ### The addresses that a text lets in -/

/-- An address is equal to the one that the text denotes, or it shares the leading bits of the
network that the text denotes. Blanks around the text do not count. -/
def Matches (text : String) (ip : Ip) : Prop :=
  (∃ net, Network.parse? (Text.trim text) = some net ∧ net.Contains ip) ∨
    Ip.parse? (Text.trim text) = some ip

/-- A text lets in what its entry admits. Truncating a network keeps its members. -/
theorem matches_iff {text : String} {ip : Ip} :
    Matches text ip ↔ ∃ e, Entry.read? text = some e ∧ e.Admits ip := by
  constructor
  · rintro (⟨net, hnet, hip⟩ | hip)
    · exact ⟨.network net.truncate, Entry.parse?_of_network hnet,
        (net.contains_truncate ip).mpr hip⟩
    · exact ⟨.address ip, Entry.parse?_of_address hip, rfl⟩
  · rintro ⟨e, hread, hadmits⟩
    rcases Entry.parse?_eq_some_iff.mp hread with ⟨net, hnet, rfl⟩ | ⟨own, hown, rfl⟩
    · exact .inl ⟨net, hnet, (net.contains_truncate ip).mp hadmits⟩
    · obtain rfl : own = ip := hadmits
      exact .inr hown

instance (text : String) (ip : Ip) : Decidable (Matches text ip) :=
  decidable_of_iff ((Entry.read? text).any (fun e => e.Admits ip) = true) <| by
    rw [matches_iff, Option.any_eq_true]
    simp only [decide_eq_true_eq]

/-- The form of a canonical entry lets in what the entry admits. -/
theorem matches_print {e : Entry} (h : e.Canonical) {ip : Ip} :
    Matches e.print ip ↔ e.Admits ip := by
  rw [matches_iff, Entry.read?_print h]
  simp

/-! ### What reading a list leaves -/

/-- The two kinds of entries. -/
inductive Kind where
  | network
  | address
  deriving DecidableEq

/-- The kind of an entry. -/
def Entry.kind : Entry → Kind
  | network _ => .network
  | address _ => .address

/-- An entry is of one kind or of the other. -/
theorem Entry.exists_kind_iff {p : Entry → Prop} :
    ((∃ e, e.kind = .network ∧ p e) ∨ ∃ e, e.kind = .address ∧ p e) ↔ ∃ e, p e := by
  constructor
  · rintro (⟨e, -, he⟩ | ⟨e, -, he⟩) <;> exact ⟨e, he⟩
  · rintro ⟨e, he⟩
    cases hkind : e.kind with
    | network => exact .inl ⟨e, hkind, he⟩
    | address => exact .inr ⟨e, hkind, he⟩

namespace Parsed

/-- The forms of one kind. -/
def forms (p : Parsed) : Kind → TextSet
  | .network => p.networks
  | .address => p.addresses

/-- A text that denotes an entry adds its form to those of its kind. No other text adds any. -/
theorem contains_forms_add (p : Parsed) (text : String) (kind : Kind) (form : String) :
    ((p.add text).forms kind).contains form = true ↔
      (∃ e, Entry.read? text = some e ∧ e.kind = kind ∧ e.print = form) ∨
        (p.forms kind).contains form = true := by
  have hread : Entry.read? text = Entry.parse? (Text.trim text) := rfl
  unfold add
  simp only
  split
  · next hblank =>
      rw [hread, hblank, Entry.parse?_empty]
      simp
  · rw [hread]
    split
    · next net hparse =>
        cases kind <;> simp [forms, hparse, Entry.kind, Entry.print, TextSet.contains_add]
    · next ip hparse =>
        cases kind <;> simp [forms, hparse, Entry.kind, Entry.print, TextSet.contains_add]
    · next hparse =>
        cases kind <;> simp [forms, hparse]

theorem contains_forms_foldl (texts : List String) (p : Parsed) (kind : Kind) (form : String) :
    ((texts.foldl add p).forms kind).contains form = true ↔
      (∃ text ∈ texts, ∃ e, Entry.read? text = some e ∧ e.kind = kind ∧ e.print = form) ∨
        (p.forms kind).contains form = true := by
  induction texts generalizing p with
  | nil => simp
  | cons text texts ih =>
      rw [List.foldl_cons, ih, contains_forms_add, List.exists_mem_cons_iff]
      exact or_left_comm.trans or_assoc.symm

/-- An entry is denoted by one of the texts. -/
def Denotes (texts : List String) (e : Entry) : Prop :=
  ∃ text ∈ texts, Entry.read? text = some e

theorem Denotes.canonical {texts : List String} {e : Entry} (h : Denotes texts e) :
    e.Canonical := by
  obtain ⟨text, -, hread⟩ := h
  exact Entry.canonical_of_parse? hread

theorem denotes_singleton {text : String} {e : Entry} :
    Denotes [text] e ↔ Entry.read? text = some e := by
  simp [Denotes]

/-- The forms of a kind are those of the entries of that kind that the texts denote. -/
theorem contains_forms (texts : List String) (kind : Kind) (form : String) :
    ((ofTexts texts).forms kind).contains form = true ↔
      ∃ e, e.kind = kind ∧ Denotes texts e ∧ e.print = form := by
  rw [ofTexts, contains_forms_foldl, or_iff_left (by cases kind <;> exact Bool.false_ne_true)]
  constructor
  · rintro ⟨text, htext, e, hread, hkind, hprint⟩
    exact ⟨e, hkind, ⟨text, htext, hread⟩, hprint⟩
  · rintro ⟨e, hkind, ⟨text, htext, hread⟩, hprint⟩
    exact ⟨text, htext, e, hread, hkind, hprint⟩

/-- Lists that denote the same entries leave the same forms. -/
theorem forms_congr {texts texts' : List String} (h : ∀ e, Denotes texts e ↔ Denotes texts' e)
    (kind : Kind) : (ofTexts texts).forms kind = (ofTexts texts').forms kind := by
  refine TextSet.ext_contains fun form => ?_
  rw [contains_forms, contains_forms]
  exact exists_congr fun e => and_congr_right' (and_congr_left' (h e))

theorem sorted_congr {texts texts' : List String}
    (h : ∀ e, Denotes texts e ↔ Denotes texts' e) :
    (ofTexts texts).sorted = (ofTexts texts').sorted := by
  have hnetworks : (ofTexts texts).networks = (ofTexts texts').networks := forms_congr h .network
  have haddresses : (ofTexts texts).addresses = (ofTexts texts').addresses :=
    forms_congr h .address
  rw [sorted, sorted, hnetworks, haddresses]

/-- The forms that come out are the forms of the entries that went in. -/
theorem mem_sorted_iff (texts : List String) (form : String) :
    form ∈ (ofTexts texts).sorted ↔ ∃ e, Denotes texts e ∧ e.print = form := by
  rw [sorted, TextMap.mem_keys_iff, TextSet.contains_union]
  have hnetworks := contains_forms texts .network form
  have haddresses := contains_forms texts .address form
  exact (or_congr hnetworks haddresses).trans Entry.exists_kind_iff

/-- Forms that come out denote the entries that went in. -/
theorem denotes_sorted (texts : List String) (e : Entry) :
    Denotes (ofTexts texts).sorted e ↔ Denotes texts e := by
  constructor
  · rintro ⟨form, hform, hread⟩
    obtain ⟨e', hdenotes, rfl⟩ := (mem_sorted_iff texts form).mp hform
    obtain rfl : e' = e := by
      rw [Entry.read?_print hdenotes.canonical] at hread
      exact Option.some.inj hread
    exact hdenotes
  · intro hdenotes
    exact ⟨e.print, (mem_sorted_iff texts e.print).mpr ⟨e, hdenotes, rfl⟩,
      Entry.read?_print hdenotes.canonical⟩

/-- A list has a valid text if one of its texts denotes an entry. -/
theorem hasValid_ofTexts (texts : List String) :
    (ofTexts texts).hasValid = true ↔ ∃ e, Denotes texts e := by
  have hkind : ∀ kind, ((ofTexts texts).forms kind).entries.isEmpty = false ↔
      ∃ e, e.kind = kind ∧ Denotes texts e := by
    intro kind
    rw [TextMap.isEmpty_entries_eq_false_iff]
    constructor
    · rintro ⟨form, hform⟩
      obtain ⟨e, hkind, hdenotes, -⟩ := (contains_forms texts kind form).mp hform
      exact ⟨e, hkind, hdenotes⟩
    · rintro ⟨e, hkind, hdenotes⟩
      exact ⟨e.print, (contains_forms texts kind e.print).mpr ⟨e, hkind, hdenotes, rfl⟩⟩
  rw [hasValid, Bool.or_eq_true, Bool.not_eq_true', Bool.not_eq_true']
  exact (or_congr (hkind .network) (hkind .address)).trans Entry.exists_kind_iff

/-- Whether a text, blanks around it dropped, is neither blank nor an entry. -/
def isInvalid (text : String) : Bool :=
  text ≠ "" && (Entry.parse? text).isNone

theorem isInvalid_print {e : Entry} (h : e.Canonical) : ¬ isInvalid e.print = true := by
  simp [isInvalid, Entry.parse?_print h]

theorem invalid_add (p : Parsed) (text : String) :
    (p.add text).invalid = p.invalid ++ [Text.trim text].filter isInvalid := by
  unfold add
  simp only
  split
  · next hblank => simp [isInvalid, hblank]
  · next hblank => split <;> simp_all [isInvalid]

/-- The invalid texts are the ones that are neither blank nor an entry, in order. -/
theorem invalid_ofTexts (texts : List String) :
    (ofTexts texts).invalid = (texts.map Text.trim).filter isInvalid := by
  have hfoldl : ∀ (texts : List String) (p : Parsed),
      (texts.foldl add p).invalid = p.invalid ++ (texts.map Text.trim).filter isInvalid := by
    intro texts
    induction texts with
    | nil => simp
    | cons text texts ih =>
        intro p
        rw [List.foldl_cons, ih, invalid_add, List.append_assoc, ← List.filter_append,
          List.map_cons, List.singleton_append]
  exact hfoldl texts {}

/-- The forms of a list are those that its texts have one by one. -/
theorem mem_sorted_iff_singleton (texts : List String) (form : String) :
    form ∈ (ofTexts texts).sorted ↔ ∃ text ∈ texts, form ∈ (ofTexts [text]).sorted := by
  simp only [mem_sorted_iff, denotes_singleton]
  constructor
  · rintro ⟨e, ⟨text, htext, hread⟩, hprint⟩
    exact ⟨text, htext, e, hread, hprint⟩
  · rintro ⟨text, htext, e, hread, hprint⟩
    exact ⟨e, ⟨text, htext, hread⟩, hprint⟩

/-- A valid text has one form. -/
theorem sorted_singleton {text : String} {e : Entry} (h : Entry.read? text = some e) :
    (ofTexts [text]).sorted = [e.print] := by
  have hform : ∀ form, form ∈ (ofTexts [text]).sorted ↔ form ∈ [e.print] := by
    intro form
    simp [mem_sorted_iff, denotes_singleton, h, eq_comm]
  have hnodup : (ofTexts [text]).sorted.Nodup := TextMap.nodup_keys _
  exact List.perm_singleton.mp
    ((List.perm_ext_iff_of_nodup hnodup (List.nodup_singleton _)).mpr hform)

end Parsed

/-! ### Fixed points -/

/-- The places that a text of a list can end up in. -/
inductive Place where
  | networks
  | addresses
  | invalid

/-- A text, blanks around it dropped, has ended up in a place. -/
def Parsed.Has (p : Parsed) (text : String) : Place → Prop
  | .networks => ∃ net, Network.parse? text = some net ∧
      p.networks.contains net.truncate.print = true
  | .addresses => ∃ ip, Ip.parse? text = some ip ∧ p.addresses.contains ip.print = true
  | .invalid => text ∈ p.invalid

/-- The place of a text that is not blank, by the entry that it denotes. -/
def Place.ofEntry : Option Entry → Place
  | some (.network _) => .networks
  | some (.address _) => .addresses
  | none => .invalid

/-- A text ends up in the place of its entry and in no other. -/
theorem Parsed.has_iff {texts : List String} {text : String} (h : text ∈ texts)
    (hblank : Text.trim text ≠ "") (place : Place) :
    (ofTexts texts).Has (Text.trim text) place ↔ Place.ofEntry (Entry.read? text) = place := by
  have hkept : ∀ {e}, Entry.read? text = some e →
      ((ofTexts texts).forms e.kind).contains e.print = true := fun {e} hread =>
    (contains_forms texts e.kind e.print).mpr ⟨e, rfl, ⟨text, h, hread⟩, rfl⟩
  cases place with
  | networks =>
      constructor
      · rintro ⟨net, hnet, -⟩
        rw [Entry.read?, Entry.parse?_of_network hnet]
        rfl
      · intro hplace
        unfold Place.ofEntry at hplace
        split at hplace <;> cases hplace
        next net hread =>
        rcases Entry.parse?_eq_some_iff.mp hread with ⟨net, hnet, heq⟩ | ⟨ip, -, heq⟩ <;> cases heq
        exact ⟨net, hnet, hkept hread⟩
  | addresses =>
      constructor
      · rintro ⟨ip, hip, -⟩
        rw [Entry.read?, Entry.parse?_of_address hip]
        rfl
      · intro hplace
        unfold Place.ofEntry at hplace
        split at hplace <;> cases hplace
        next ip hread =>
        rcases Entry.parse?_eq_some_iff.mp hread with ⟨net, -, heq⟩ | ⟨ip, hip, heq⟩ <;> cases heq
        exact ⟨ip, hip, hkept hread⟩
  | invalid =>
      have hmem : Text.trim text ∈ texts.map Text.trim := List.mem_map_of_mem h
      have hinvalid : isInvalid (Text.trim text) = true ↔ Entry.read? text = none := by
        simp [isInvalid, hblank, Entry.read?]
      rw [Has, invalid_ofTexts, List.mem_filter, and_iff_right hmem, hinvalid]
      constructor
      · intro hread
        rw [hread]
        rfl
      · intro hplace
        unfold Place.ofEntry at hplace
        split at hplace <;> cases hplace
        assumption

/-- Two texts denote the same address, or networks that are the same when truncated. -/
def SameEntry (s t : String) : Prop :=
  (∃ ip, Ip.parse? (Text.trim s) = some ip ∧ Ip.parse? (Text.trim t) = some ip) ∨
    ∃ net net', Network.parse? (Text.trim s) = some net ∧ Network.parse? (Text.trim t) = some net' ∧
      net.truncate = net'.truncate

theorem sameEntry_iff {s t : String} :
    SameEntry s t ↔ ∃ e, Entry.read? s = some e ∧ Entry.read? t = some e := by
  constructor
  · rintro (⟨ip, hs, ht⟩ | ⟨net, net', hs, ht, heq⟩)
    · exact ⟨.address ip, Entry.parse?_of_address hs, Entry.parse?_of_address ht⟩
    · refine ⟨.network net.truncate, Entry.parse?_of_network hs, ?_⟩
      rw [heq]
      exact Entry.parse?_of_network ht
  · rintro ⟨e, hs, ht⟩
    rcases Entry.parse?_eq_some_iff.mp hs with ⟨net, hnet, rfl⟩ | ⟨ip, hip, rfl⟩
    · rcases Entry.parse?_eq_some_iff.mp ht with ⟨net', hnet', heq⟩ | ⟨ip, -, heq⟩
      · exact .inr ⟨net, net', hnet, hnet', Entry.network.inj heq⟩
      · cases heq
    · rcases Entry.parse?_eq_some_iff.mp ht with ⟨net, -, heq⟩ | ⟨ip', hip', heq⟩
      · cases heq
      · cases heq
        exact .inl ⟨ip, hip, hip'⟩

/-- The length of a network counts, the other bits of its base and the way it is written do not.
Only a network may have octets that start with a zero. -/
example :
    Entry.read? " 010.1.2.3/8" = Entry.read? "10.255.0.0/8" ∧
      Entry.read? "10.0.0.0/9" ≠ Entry.read? "10.0.0.0/8" ∧
      Entry.read? "::FFFF:102:304" = Entry.read? "0:0:0:0:0:ffff:1.2.3.4" ∧
      Entry.read? "010.1.2.3" = none := by
  decide +kernel

/-- What holds of the canonical forms of a list. -/
structure KeepsForms (texts : List String) : Prop where
  /-- Read again, none of them is invalid. -/
  noneInvalid : (Parsed.ofTexts (Parsed.ofTexts texts).sorted).invalid = []
  /-- Read again, they leave the same networks. -/
  networks : (Parsed.ofTexts (Parsed.ofTexts texts).sorted).networks =
    (Parsed.ofTexts texts).networks
  /-- Read again, they leave the same addresses. -/
  addresses : (Parsed.ofTexts (Parsed.ofTexts texts).sorted).addresses =
    (Parsed.ofTexts texts).addresses
  /-- No text is in two of the three places. -/
  apart : ∀ form, ¬ ((Parsed.ofTexts texts).networks.contains form = true ∧
      (Parsed.ofTexts texts).addresses.contains form = true) ∧
    (form ∈ (Parsed.ofTexts texts).invalid → form ∉ (Parsed.ofTexts texts).sorted)
  /-- They are the forms that the texts have one by one, and a valid text has one form. -/
  each : (∀ form, form ∈ (Parsed.ofTexts texts).sorted ↔
      ∃ text ∈ texts, form ∈ (Parsed.ofTexts [text]).sorted) ∧
    ∀ text ∈ texts, (Parsed.ofTexts [text]).hasValid = true →
      ∃ form, (Parsed.ofTexts [text]).sorted = [form]
  /-- Two valid texts have the same form if and only if they denote the same. -/
  sameForm : ∀ s ∈ texts, ∀ t ∈ texts, (Parsed.ofTexts [s]).hasValid = true →
    (Parsed.ofTexts [t]).hasValid = true →
      ((Parsed.ofTexts [s]).sorted = (Parsed.ofTexts [t]).sorted ↔ SameEntry s t)
  /-- A text that is not blank ends up in one place and in no other. -/
  onePlace : ∀ text ∈ texts, Text.trim text ≠ "" →
    ∃! place, (Parsed.ofTexts texts).Has (Text.trim text) place

/-- The canonical forms of a list are a fixed point of reading it, the form of an entry tells it
from all others, and every text of the list ends up in one place. -/
theorem keepsForms (texts : List String) : KeepsForms texts := by
  have hforms := Parsed.forms_congr (Parsed.denotes_sorted texts)
  have hvalid : ∀ text, (Parsed.ofTexts [text]).hasValid = true →
      ∃ e, Entry.read? text = some e := by
    intro text hvalid
    obtain ⟨e, text', htext', hread⟩ := (Parsed.hasValid_ofTexts [text]).mp hvalid
    obtain rfl := List.mem_singleton.mp htext'
    exact ⟨e, hread⟩
  refine ⟨?_, hforms .network, hforms .address, fun form => ⟨?_, ?_⟩,
    ⟨Parsed.mem_sorted_iff_singleton texts, fun text _ htext => ?_⟩, ?_, ?_⟩
  · rw [Parsed.invalid_ofTexts, List.filter_eq_nil_iff]
    intro form hform
    obtain ⟨form, hmem, rfl⟩ := List.mem_map.mp hform
    obtain ⟨e, hdenotes, rfl⟩ := (Parsed.mem_sorted_iff texts form).mp hmem
    rw [Entry.trim_print]
    exact Parsed.isInvalid_print hdenotes.canonical
  · rintro ⟨hnetwork, haddress⟩
    obtain ⟨e, hkind, he, hprint⟩ := (Parsed.contains_forms texts .network form).mp hnetwork
    obtain ⟨e', hkind', he', hprint'⟩ := (Parsed.contains_forms texts .address form).mp haddress
    obtain rfl := (Entry.print_inj he.canonical he'.canonical).mp (hprint.trans hprint'.symm)
    cases hkind.symm.trans hkind'
  · intro hinvalid hform
    obtain ⟨e, hdenotes, rfl⟩ := (Parsed.mem_sorted_iff texts form).mp hform
    rw [Parsed.invalid_ofTexts, List.mem_filter] at hinvalid
    exact absurd hinvalid.2 (Parsed.isInvalid_print hdenotes.canonical)
  · obtain ⟨e, hread⟩ := hvalid text htext
    exact ⟨e.print, Parsed.sorted_singleton hread⟩
  · intro s _ t _ hs ht
    obtain ⟨e, hs⟩ := hvalid s hs
    obtain ⟨e', ht⟩ := hvalid t ht
    rw [Parsed.sorted_singleton hs, Parsed.sorted_singleton ht, sameEntry_iff, hs, ht,
      List.singleton_inj,
      Entry.print_inj (Entry.canonical_of_parse? hs) (Entry.canonical_of_parse? ht)]
    simp [eq_comm]
  · intro text htext hblank
    exact (existsUnique_congr (Parsed.has_iff htext hblank)).mpr existsUnique_eq'

end IngressController.AllowList
