import IngressController.Proofs.TcpService.Table
import IngressController.Proofs.Text.Numeral
import Mathlib.Data.List.Perm.Basic

/-!
# `IngressController.Proofs.TcpService.Port`: the ports that the backends of a pass listen on

The keys of a table are distinct texts, but a backend listens on the number that its key is read
as. A plus sign and zeros in front make no difference to that number, and zero is a number like any
other: whoever fills the table has to see to it that no two of its keys stand for one port.

* `Listening`: each backend comes from an entry of its own and listens on the number of its key.
* `listening_of_sync`: the backends of every pass do, in whatever order they are.
-/

set_option autoImplicit false

namespace IngressController.TcpService

/-- Some entry with a key has a backend as its verdict. -/
def Lookups.Serves (l : Lookups) (entries : List (String × String)) (key : String)
    (backend : Backend) : Prop :=
  ∃ directive, (key, directive) ∈ entries ∧ l.convert key directive = .ok (.ok backend)

/-- That a backend listens on the number of a key, of sixteen bits. -/
def Backend.ListensOn (key : String) (backend : Backend) : Prop :=
  Text.readUnsigned? 16 key = some backend.port ∧ backend.port ≤ 65535

/-- Backends come from entries of their own and listen on the numbers of their keys. -/
structure Listening (l : Lookups) (table : TextMap String) (keys : List String)
    (backends : List Backend) : Prop where
  /-- Each backend is the verdict on the entry of its key. -/
  serves : List.Forall₂ (l.Serves table.entries) keys backends
  /-- No key has two of them. -/
  nodup : keys.Nodup
  /-- The port of a backend is the number of its key. -/
  port : List.Forall₂ Backend.ListensOn keys backends
  /-- Port zero is left out exactly if no key is made of zeros. -/
  positive : (∀ backend ∈ backends, 1 ≤ backend.port)
    ↔ ∀ key ∈ keys, Text.significantDigits key ≠ []
  /-- The ports are distinct exactly if the digits that count in the keys are. -/
  distinct : (keys.map Text.significantDigits).Nodup ↔ (backends.map Backend.port).Nodup

/-! ### Values that agree position by position -/

section Forall₂

variable {α β γ δ : Type} {R : α → β → Prop} {f : α → γ} {g : β → δ}

/-- If values agree between partners exactly when they do between the others, then one value is
found on one side exactly if its partner is on the other. -/
theorem mem_map_iff_of_forall₂
    (hsame : ∀ a b a' b', R a b → R a' b' → (f a = f a' ↔ g b = g b')) {a : α} {b : β}
    (hab : R a b) {as : List α} {bs : List β} (h : List.Forall₂ R as bs) :
    f a ∈ as.map f ↔ g b ∈ bs.map g := by
  induction h with
  | nil => exact iff_of_false List.not_mem_nil List.not_mem_nil
  | cons hfirst _ ih =>
      rw [List.map_cons, List.map_cons, List.mem_cons, List.mem_cons, hsame _ _ _ _ hab hfirst, ih]

/-- Then the values on one side are distinct exactly if those on the other are. -/
theorem nodup_map_iff_of_forall₂
    (hsame : ∀ a b a' b', R a b → R a' b' → (f a = f a' ↔ g b = g b')) {as : List α}
    {bs : List β} (h : List.Forall₂ R as bs) : (as.map f).Nodup ↔ (bs.map g).Nodup := by
  induction h with
  | nil => exact iff_of_true List.nodup_nil List.nodup_nil
  | cons hfirst hrest ih =>
      rw [List.map_cons, List.map_cons, List.nodup_cons, List.nodup_cons,
        mem_map_iff_of_forall₂ hsame hfirst hrest, ih]

end Forall₂

/-! ### From the key to the port -/

section Port

variable {l : Lookups} {d : Directive} {backend : Backend}

/-- A directive that is read has the number of its key for its public port. -/
theorem publicPort_of_parse {key directive : String} (h : Directive.parse key directive = .ok d) :
    Text.readUnsigned? 16 key = some d.publicPort := by
  rw [Directive.parse] at h
  split at h
  · cases h
  · next port hport =>
      split at h
      · cases h
      · cases h
        exact hport

/-- The backend of an entry listens on the number of its key. -/
theorem port_of_convert {key directive : String} (h : l.convert key directive = .ok (.ok backend)) :
    Text.readUnsigned? 16 key = some backend.port := by
  rw [Lookups.convert] at h
  cases hparse : Directive.parse key directive with
  | error skip => rw [hparse] at h; cases h
  | ok d =>
      rw [hparse] at h
      obtain ⟨service, port, path, addresses, -, -, -, rfl⟩ := exists_selects_of_resolve h
      exact publicPort_of_parse hparse

/-- The backends of some entries, in the order of the keys, come from a part of them. -/
theorem Lookups.Judges.exists_keys {entries : List (String × String)} {verdicts : List Verdict}
    (h : l.Judges entries verdicts) :
    ∃ keys, keys.Sublist (entries.map Prod.fst)
      ∧ List.Forall₂ (l.Serves entries) keys (verdicts.filterMap Verdict.backend?) := by
  induction entries generalizing verdicts with
  | nil =>
      obtain rfl : verdicts = [] := List.map_eq_nil_iff.mp h.symm
      exact ⟨[], .refl _, .nil⟩
  | cons x entries ih =>
      cases verdicts with
      | nil => cases h
      | cons verdict verdicts =>
          obtain ⟨hx, hrest⟩ := List.cons.inj h
          obtain ⟨keys, hkeys, hserves⟩ := ih hrest
          have hserves : List.Forall₂ (l.Serves (x :: entries)) keys
              (verdicts.filterMap Verdict.backend?) :=
            hserves.imp fun _ _ ⟨directive, hmem, hconvert⟩ =>
              ⟨directive, List.mem_cons_of_mem _ hmem, hconvert⟩
          cases verdict with
          | error skip => exact ⟨keys, hkeys.cons _, hserves⟩
          | ok backend =>
              have hfirst : l.Serves (x :: entries) x.1 backend :=
                ⟨x.2, List.mem_cons_self .., hx⟩
              exact ⟨x.1 :: keys, hkeys.cons_cons _, .cons hfirst hserves⟩

end Port

/-! ### The backends of a pass -/

/-- None of the backends listens on port zero exactly if none of their keys is made of zeros. -/
theorem one_le_port_iff {keys : List String} {backends : List Backend}
    (h : List.Forall₂ Backend.ListensOn keys backends) :
    (∀ backend ∈ backends, 1 ≤ backend.port)
      ↔ ∀ key ∈ keys, Text.significantDigits key ≠ [] := by
  induction h with
  | nil => exact iff_of_true (by simp) (by simp)
  | cons hfirst _ ih =>
      rw [List.forall_mem_cons, List.forall_mem_cons, ih, Nat.one_le_iff_ne_zero, Ne,
        Text.read_eq_zero_iff hfirst.1]

/-- The backends of a pass listen on the numbers of their keys. -/
theorem listening_of_sync (l : Lookups) (table : TextMap String) (outcome : Outcome)
    (h : (sync l table).value = .ok outcome) :
    ∃ keys, Listening l table keys outcome.backends := by
  obtain ⟨verdicts, hjudges⟩ := exists_judges_of_value_sync h
  obtain ⟨keys₀, hsublist, hserves₀⟩ := hjudges.exists_keys
  rw [value_sync_of_judges hjudges] at h
  cases h
  -- The keys are brought into the order of the backends.
  have hcomp : Relation.Comp (List.Forall₂ (l.Serves table.entries)) List.Perm keys₀
      ((verdicts.filterMap Verdict.backend?).mergeSort Backend.ordered) :=
    ⟨_, hserves₀, (List.mergeSort_perm _ _).symm⟩
  rw [List.forall₂_comp_perm_eq_perm_comp_forall₂] at hcomp
  obtain ⟨keys, hperm, hserves⟩ := hcomp
  have hport : List.Forall₂ Backend.ListensOn keys
      ((verdicts.filterMap Verdict.backend?).mergeSort Backend.ordered) :=
    hserves.imp fun key backend ⟨directive, _, hconvert⟩ =>
      ⟨port_of_convert hconvert,
        Nat.le_of_lt_succ (Text.digitsValue?_of_read (port_of_convert hconvert)).2⟩
  exact ⟨keys, hserves, hperm.nodup_iff.mp (table.nodup_keys.sublist hsublist), hport,
    one_le_port_iff hport,
    nodup_map_iff_of_forall₂ (fun _ _ _ _ hfirst hsecond => (Text.read_eq_iff hfirst.1 hsecond.1).symm)
      hport⟩

/-- A table whose keys are spelled with a plus sign and with a zero in front. -/
def respelledTable : TextMap String where
  entries := [("+90", "default/echo:80"), ("080", "default/echo:80")]
  sorted := by decide +kernel

/-- The backends of such a table, in the order of their ports, listen on the numbers of its keys. -/
theorem listening_of_respelledTable :
    ∃ keys, Listening echoLookups respelledTable keys
      [{ echoBackend with port := 80 }, { echoBackend with port := 90 }] := by
  have hjudges : echoLookups.Judges respelledTable.entries
      [.ok { echoBackend with port := 90 }, .ok { echoBackend with port := 80 }] := by
    rw [Lookups.Judges]
    decide +kernel
  have hlater : Backend.ordered { echoBackend with port := 90 } { echoBackend with port := 80 }
      = false := by
    decide +kernel
  refine listening_of_sync echoLookups respelledTable { backends := [_, _] } ?_
  rw [value_sync_of_judges hjudges]
  simp [Verdict.backend?, Verdict.skip?, List.mergeSort, List.MergeSort.Internal.splitInTwo, hlater]

/-- A table with a key of zeros and two keys for the same port. -/
def paddedTable : TextMap String where
  entries :=
    [("0", "default/echo:80"), ("080", "default/echo:80"), ("80", "default/echo:80")]
  sorted := by decide +kernel

/-- The backends of such a table. -/
def paddedBackends : List Backend :=
  [{ echoBackend with port := 0 }, { echoBackend with port := 80 }, { echoBackend with port := 80 }]

/-- Two backends of a pass may listen on the same port, and one on port zero. -/
theorem sync_paddedTable :
    (sync echoLookups paddedTable).value = .ok { backends := paddedBackends }
      ∧ ¬ (paddedBackends.map Backend.port).Nodup
      ∧ ¬ ∀ backend ∈ paddedBackends, 1 ≤ backend.port := by
  have hjudges : echoLookups.Judges paddedTable.entries (paddedBackends.map .ok) := by
    rw [Lookups.Judges]
    decide +kernel
  have hordered : paddedBackends.Pairwise fun a b => a.ordered b = true := by decide +kernel
  refine ⟨?_, by decide +kernel, by decide +kernel⟩
  rw [value_sync_of_judges hjudges]
  show Except.ok (Outcome.mk (paddedBackends.mergeSort Backend.ordered) []) = _
  rw [List.mergeSort_of_pairwise hordered]

end IngressController.TcpService
