import IngressController.Proofs.Status.Entries
import Mathlib.Data.List.Forall2

/-!
# `IngressController.Proofs.Status.Addresses`: addresses as they are published

The running addresses are published as a list of entries, one for each of them, in order of the host
names and then of the IPs. An address that can be read as an IP is shown as one, any other as a host
name. Nothing else about the list depends on how the addresses were found: two lists of addresses
are published as the same entries exactly if they hold the same addresses equally often, in whatever
order.

* `Entry.Shows`: the entry for an address, and `Entry.shows_iff`: it is the one that is made.
* `Publishes`: a list of entries has one for each address, and is in order.
* `publishes_of_any_order`: the entries that are published, and how lists of them are compared.
-/

set_option autoImplicit false

namespace IngressController

open Object

/-- Lists whose elements are related one by one, by a relation that is a function. -/
theorem forall₂_iff_eq_map {α β : Type} {R : α → β → Prop} {f : α → β}
    (h : ∀ a b, R a b ↔ b = f a) {as : List α} {bs : List β} :
    List.Forall₂ R as bs ↔ bs = as.map f := by
  constructor
  · intro hall
    induction hall with
    | nil => rfl
    | cons hab _ ih => rw [List.map_cons, (h _ _).mp hab, ih]
  · rintro rfl
    rw [List.forall₂_map_right_iff, List.forall₂_same]
    exact fun a _ => (h _ _).mpr rfl

namespace Object.Entry

/-- An entry shows an address: as an IP if it can be read as one, and as a host name if not. -/
inductive Shows : Entry → String → Prop
  | ip {address : String} (h : ∃ ip, Address.Ip.parse? address = some ip) :
      Shows { ip := some address } address
  | hostname {address : String} (h : Address.Ip.parse? address = none) :
      Shows { hostname := some address } address

/-- The entry that shows an address is the one that is made for it. -/
theorem shows_iff {e : Entry} {address : String} : e.Shows address ↔ e = ofAddress address := by
  rw [ofAddress]
  constructor
  · rintro (⟨ip, h⟩ | h)
    · rw [h]
      rfl
    · rw [h]
      rfl
  · rintro rfl
    cases h : Address.Ip.parse? address with
    | some ip => exact .ip ⟨ip, h⟩
    | none => exact .hostname h

/-- The address of an entry can be told from it. -/
theorem shown_ofAddress (address : String) : (ofAddress address).shown = address := by
  rw [ofAddress]
  split <;> rfl

/-- Entries for addresses are the same if they have the same host name and the same IP. -/
theorem Shows.eq_of_address_eq {e e' : Entry} {x y : String} (hx : e.Shows x) (hy : e'.Shows y)
    (h : e.address = e'.address) : e = e' := by
  have hhost : e.hostText = e'.hostText := congrArg Prod.fst h
  have hip : e.ipText = e'.ipText := congrArg Prod.snd h
  -- An IP and a host name that are not told apart are both empty, and then the same address.
  have hapart : ∀ {x y : String}, (∃ ip, Address.Ip.parse? x = some ip) →
      Address.Ip.parse? y = none → x = "" → y = "" → False := by
    rintro x y ⟨ip, hx⟩ hy rfl rfl
    cases hx.symm.trans hy
  cases hx with
  | ip hx =>
      cases hy with
      | ip hy => exact congrArg (fun x => ({ ip := some x } : Entry)) hip
      | hostname hy => exact (hapart hx hy hip hhost.symm).elim
  | hostname hx =>
      cases hy with
      | ip hy => exact (hapart hy hx hip.symm hhost).elim
      | hostname hy => exact congrArg (fun x => ({ hostname := some x } : Entry)) hhost

end Object.Entry

namespace Status

/-- A list of entries shows some addresses: it has one entry for each of them, and is ordered by
host name and then by IP. -/
structure Publishes (addresses : List String) (entries : List Entry) : Prop where
  each : ∃ shown, List.Forall₂ (fun address e => e.Shows address) addresses shown
    ∧ entries.Perm shown
  ordered : entries.Pairwise fun a b => Entry.Precedes a.address b.address

section Published

variable {addresses addresses' : List String}

/-- The entries that are published are those that are made for the addresses. -/
theorem sortEntries_entriesOf_perm (addresses : List String) :
    (sortEntries (entriesOf addresses)).Perm (addresses.map Entry.ofAddress) :=
  (sortEntries_perm _).trans (entriesOf_perm addresses)

/-- They show the addresses. -/
theorem publishes_sortEntries (addresses : List String) :
    Publishes addresses (sortEntries (entriesOf addresses)) where
  each :=
    have hshows : ∀ address e, Entry.Shows e address ↔ e = Entry.ofAddress address :=
      fun _ _ => Entry.shows_iff
    ⟨addresses.map Entry.ofAddress, (forall₂_iff_eq_map hshows).mpr rfl,
      sortEntries_entriesOf_perm addresses⟩
  ordered := pairwise_sortEntries _

/-- The entries that are published tell the addresses, but for their order. -/
theorem sortEntries_entriesOf_eq_iff :
    sortEntries (entriesOf addresses) = sortEntries (entriesOf addresses')
      ↔ addresses.Perm addresses' := by
  constructor
  · intro h
    have hshown : ∀ l, ((sortEntries (entriesOf l)).map Entry.shown).Perm l := fun l => by
      have hperm := (sortEntries_entriesOf_perm l).map Entry.shown
      rwa [List.map_map, show Entry.shown ∘ Entry.ofAddress = id from
        funext Entry.shown_ofAddress, List.map_id] at hperm
    have hperm := hshown addresses
    rw [h] at hperm
    exact hperm.symm.trans (hshown addresses')
  · intro h
    have hperm : (sortEntries (entriesOf addresses)).Perm (sortEntries (entriesOf addresses')) :=
      (sortEntries_entriesOf_perm addresses).trans
        ((h.map _).trans (sortEntries_entriesOf_perm addresses').symm)
    -- The order does not tell entries with the same address apart, but these are made for one.
    refine hperm.eq_of_pairwise (fun a b ha hb hab hba => ?_) (pairwise_sortEntries _)
      (pairwise_sortEntries _)
    have hshows : ∀ l, ∀ e ∈ sortEntries (entriesOf l), ∃ address, e.Shows address := by
      intro l e he
      obtain ⟨address, -, rfl⟩ := List.mem_map.mp ((sortEntries_entriesOf_perm l).mem_iff.mp he)
      exact ⟨address, Entry.shows_iff.mpr rfl⟩
    obtain ⟨x, hx⟩ := hshows addresses a ha
    obtain ⟨y, hy⟩ := hshows addresses' b hb
    exact hx.eq_of_address_eq hy (Entry.precedes_antisymm hab hba)

end Published

/-- Addresses are published as one entry for each of them, whatever their order, and no two other
lists of them are published as the same entries. Lists of entries, once they have been ordered, are
taken for the same exactly if they hold the same host names and IPs equally often. -/
theorem publishes_of_any_order :
    (∀ addresses, Publishes addresses (sortEntries (entriesOf addresses)))
      ∧ (∀ addresses addresses',
        sortEntries (entriesOf addresses) = sortEntries (entriesOf addresses')
          ↔ addresses.Perm addresses')
      ∧ ∀ as bs, sameEntries (sortEntries as) (sortEntries bs) = true
        ↔ (as.map Entry.address).Perm (bs.map Entry.address) :=
  ⟨publishes_sortEntries, fun _ _ => sortEntries_entriesOf_eq_iff, sameEntries_sortEntries_iff⟩

end Status

end IngressController
