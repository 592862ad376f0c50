import IngressController.Address.Reader
import Mathlib.Data.List.Basic

/-!
# `IngressController.Proofs.Address.Grammar`: no text is both an address and a network

A network has a slash in front of its length. The readers of addresses never read over a slash. So
an address, which is read to the end of the text, has none, and the two kinds of texts are told
apart by it, although they are read by different grammars.

* `ReadTo`: what has been read of a text has no slash in it.
* `readTo_of_readV4` and `readTo_of_readV6`: this is so for either family and either grammar.
* `Network.parse?_eq_none_of_address`: what denotes an address denotes no network.
-/

set_option autoImplicit false

namespace IngressController.Address

/-- A text has been read up to a rest of it, and no slash has been read. -/
def ReadTo (cs rest : List Char) : Prop :=
  ∃ used, cs = used ++ rest ∧ '/' ∉ used

section ReadTo

variable {cs cs' rest : List Char}

theorem ReadTo.refl (cs : List Char) : ReadTo cs cs :=
  ⟨[], rfl, List.not_mem_nil⟩

theorem ReadTo.trans (h : ReadTo cs cs') (h' : ReadTo cs' rest) : ReadTo cs rest := by
  obtain ⟨used, rfl, hused⟩ := h
  obtain ⟨used', rfl, hused'⟩ := h'
  refine ⟨used ++ used', (List.append_assoc ..).symm, fun hmem => ?_⟩
  exact (List.mem_append.mp hmem).elim hused hused'

/-- One more character has been read in front. -/
theorem ReadTo.cons {c : Char} (hc : c ≠ '/') (h : ReadTo cs rest) : ReadTo (c :: cs) rest := by
  obtain ⟨used, rfl, hused⟩ := h
  exact ⟨c :: used, rfl, List.not_mem_cons_of_ne_of_not_mem (Ne.symm hc) hused⟩

/-- A slash is no digit. -/
theorem readTo_takeDigits (base : Nat) (cs : List Char) : ReadTo cs (takeDigits base cs).2 := by
  induction cs with
  | nil => exact .refl []
  | cons c cs ih =>
      rw [takeDigits]
      split
      · next d hd =>
          refine ih.cons ?_
          rintro rfl
          cases hd
      · exact .refl _

theorem readTo_of_readNumber {base maxDigits limit value : Nat} {padded : Bool}
    (h : readNumber base maxDigits limit padded cs = some (value, rest)) : ReadTo cs rest := by
  have hdigits := readTo_takeDigits base cs
  unfold readNumber at h
  simp only at h
  split at h
  · cases h
  · split at h
    · cases h
    · split at h
      · cases h
        exact hdigits
      · cases h

theorem readTo_of_readOctets {g : Grammar} {first : Bool} {count : Nat} {os : List Nat}
    (h : readOctets g first count cs = some (os, rest)) : ReadTo cs rest := by
  induction count generalizing first cs os with
  | zero =>
      cases h
      exact .refl _
  | succ count ih =>
      have hnext : ∀ {cs' : List Char} {os : List Nat},
          ((readNumber 10 3 256 g.paddedOctets cs').bind fun x =>
            (readOctets g false count x.2).bind fun y => some (x.1 :: y.1, y.2)) = some (os, rest) →
          ReadTo cs' rest := by
        intro cs' os h
        obtain ⟨x, hnumber, h⟩ := Option.bind_eq_some_iff.mp h
        obtain ⟨y, hos, h⟩ := Option.bind_eq_some_iff.mp h
        cases h
        exact (readTo_of_readNumber hnumber).trans (ih hos)
      cases first with
      | true => exact hnext h
      | false =>
          unfold readOctets at h
          simp only [Bool.false_eq_true, if_false] at h
          split at h
          · exact (hnext h).cons (by decide)
          · cases h

theorem readTo_of_readColon {first : Bool} (h : readColon first cs = some rest) :
    ReadTo cs rest := by
  unfold readColon at h
  split at h
  · cases h
    exact .refl cs
  · split at h
    · cases h
      exact (ReadTo.refl _).cons (by decide)
    · cases h

theorem readTo_readGroups (g : Grammar) (first : Bool) (limit : Nat) (cs : List Char) :
    ReadTo cs (readGroups g first limit cs).2.2 := by
  induction limit generalizing first cs with
  | zero => exact .refl cs
  | succ limit ih =>
      rw [readGroups]
      split
      · next os rest hembedded =>
          split at hembedded
          · cases hembedded
          · obtain ⟨cs', hcolon, hos⟩ := Option.bind_eq_some_iff.mp hembedded
            exact (readTo_of_readColon hcolon).trans (readTo_of_readOctets hos)
      · split
        · next group rest hgroup =>
            obtain ⟨cs', hcolon, hnumber⟩ := Option.bind_eq_some_iff.mp hgroup
            exact (readTo_of_readColon hcolon).trans
              ((readTo_of_readNumber hnumber).trans (ih false rest))
        · exact .refl cs

theorem readTo_of_readV4 {g : Grammar} {ip : Ip} (h : readV4 g cs = some (ip, rest)) :
    ReadTo cs rest := by
  obtain ⟨⟨os, rest'⟩, hos, heq⟩ := Option.map_eq_some_iff.mp h
  cases heq
  exact readTo_of_readOctets hos

theorem readTo_of_readV6 {g : Grammar} {ip : Ip} (h : readV6 g cs = some (ip, rest)) :
    ReadTo cs rest := by
  have hfront := readTo_readGroups g true 8 cs
  unfold readV6 at h
  simp only at h
  split at h
  · cases h
    exact hfront
  · split at h
    · cases h
    · split at h
      · next rest' hgap =>
          cases h
          rw [hgap] at hfront
          have hgap : ReadTo (':' :: ':' :: rest') rest' :=
            ((ReadTo.refl rest').cons (by decide)).cons (by decide)
          exact hfront.trans (hgap.trans (readTo_readGroups g true _ rest'))
      · cases h

end ReadTo

/-! ### Slashes -/

/-- An address has no slash in it. -/
theorem Ip.slash_notMem_of_parse? {s : String} {ip : Ip} (h : Ip.parse? s = some ip) :
    '/' ∉ s.toList := by
  unfold Ip.parse? at h
  split at h
  · next ip' hread =>
      have hend : ReadTo s.toList [] := by
        rcases Option.or_eq_some_iff.mp hread with hv4 | ⟨-, hv6⟩
        · exact readTo_of_readV4 hv4
        · exact readTo_of_readV6 hv6
      obtain ⟨used, hused, hslash⟩ := hend
      rwa [hused, List.append_nil]
  · cases h

theorem slash_mem_of_readLength {ip : Ip} {maxDigits : Nat} {cs rest : List Char} {net : Network}
    (h : readLength ip maxDigits cs = some (net, rest)) : '/' ∈ cs := by
  unfold readLength at h
  split at h
  · exact List.mem_cons_self ..
  · cases h

/-- A network has a slash in it. -/
theorem Network.slash_mem_of_parse? {s : String} {net : Network} (h : Network.parse? s = some net) :
    '/' ∈ s.toList := by
  have hlast : ∀ {ip : Ip} {maxDigits : Nat} {cs : List Char}, ReadTo s.toList cs →
      (∃ rest, readLength ip maxDigits cs = some (net, rest)) → '/' ∈ s.toList := by
    intro ip maxDigits cs hread ⟨rest, hlength⟩
    obtain ⟨used, hused, -⟩ := hread
    rw [hused]
    exact List.mem_append_right used (slash_mem_of_readLength hlength)
  unfold Network.parse? at h
  split at h
  · next net' hread =>
      cases h
      rcases Option.or_eq_some_iff.mp hread with hv4 | ⟨-, hv6⟩
      · obtain ⟨⟨ip, cs⟩, haddress, hlength⟩ := Option.bind_eq_some_iff.mp hv4
        exact hlast (readTo_of_readV4 haddress) ⟨[], hlength⟩
      · obtain ⟨⟨ip, cs⟩, haddress, hlength⟩ := Option.bind_eq_some_iff.mp hv6
        exact hlast (readTo_of_readV6 haddress) ⟨[], hlength⟩
  · cases h

/-- What denotes an address denotes no network. -/
theorem Network.parse?_eq_none_of_address {s : String} {ip : Ip} (h : Ip.parse? s = some ip) :
    Network.parse? s = none := by
  cases hnet : Network.parse? s with
  | none => rfl
  | some net => exact absurd (Network.slash_mem_of_parse? hnet) (Ip.slash_notMem_of_parse? h)

end IngressController.Address
