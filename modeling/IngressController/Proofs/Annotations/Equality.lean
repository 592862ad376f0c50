import IngressController.Annotations.Equality
import IngressController.Proofs.Annotations.Ownership
import IngressController.Proofs.Text.Map
import Mathlib.Data.List.Perm.Subperm

/-!
# `IngressController.Proofs.Annotations.Equality`: what counts as unchanged

An Ingress is resolved afresh after every change, and if the outcome counts as the same as the one
before, nothing is taken up. So two outcomes that count as the same should agree in everything that
is served of them: the configuration of every feature, where the order of the allow list does not
matter, whether the locations are denied and whether the Ingress is degraded (`Unchanged`).

They need not. Equality compares configurations and no errors, and an error leaves a configuration
behind that other Ingresses have without one: a denied location gets the list of the default
backend, and servers that cannot be verified get the built-in settings. Moreover two allow lists of
one length count as the same if all entries of the first are in the second, so the first may have
an entry twice in place of another one of the second. An Ingress has no entry twice in a list of its
own, but it may inherit such a list.

`unchanged_extract_iff` gives the three conditions (`NothingOverlooked`) on the two Ingresses and
their surroundings under which outcomes that count as the same agree, and no weaker ones would do.
`denial_overlooked` is the worst case: if the allow list of an Ingress becomes unreadable where
there was none, that always counts as no change, and if it is removed then, that does too.
-/

set_option autoImplicit false

namespace IngressController.Annotations

open Object AllowList

/-! ### What an Ingress says of its clients -/

/-- What the allow list of an Ingress says. -/
inductive Clients where
  /-- There is no list. -/
  | unsaid
  /-- There is one, and no entry of it can be read. -/
  | unreadable (text : String)
  /-- Some entries can be read. -/
  | listed (cidr : List String)

namespace Clients

/-- What the allow list of an Ingress says. -/
def ofIngress (ing : Ingress) : Clients :=
  match textOf ing Key.whitelistSourceRange.name with
  | .error _ => unsaid
  | .ok text =>
    let parsed := Parsed.ofTexts (Text.splitOn ',' text)
    if parsed.hasValid then listed parsed.sorted else unreadable text

/-- Whether the locations of the Ingress have to be denied. -/
def isUnreadable : Clients → Bool
  | unreadable _ => true
  | _ => false

/-- Whether the list of the default backend is inherited. -/
def isInherited : Clients → Bool
  | listed _ => false
  | _ => true

/-- The clients in any order, those of the default backend if the Ingress names none. -/
def allowed (backend : DefaultBackend) : Clients → List String
  | listed cidr => cidr
  | _ => backend.whitelistSourceRange

/-- An Ingress names no client twice. -/
theorem nodup_of_ofIngress {ing : Ingress} {cidr : List String}
    (h : ofIngress ing = listed cidr) : cidr.Nodup := by
  rw [ofIngress] at h
  cases hread : textOf ing Key.whitelistSourceRange.name with
  | error e => rw [hread] at h; cases h
  | ok text =>
      rw [hread] at h
      dsimp only at h
      split at h
      · cases h
        exact TextMap.nodup_keys _
      · cases h

end Clients

/-- The outcome of the allow list. -/
theorem Whitelist.value_resolve (backend : DefaultBackend) (ing : Ingress) :
    (resolve backend ing).value = match Clients.ofIngress ing with
      | .unsaid => .ok (inherited backend)
      | .unreadable text => .error (.denied text (inherited backend))
      | .listed cidr => .ok { cidr } := by
  rw [resolve, Clients.ofIngress]
  cases textOf ing Key.whitelistSourceRange.name with
  | error e => rfl
  | ok text =>
      cases hvalid : (Parsed.ofTexts (Text.splitOn ',' text)).hasValid with
      | false => simp [hvalid]
      | true =>
          simp only [hvalid, Bool.not_true, Bool.false_eq_true, if_false, if_true]
          split <;> rfl

section Extract

variable (s : Surroundings) (ing : Ingress)

/-- The clients of an extraction, in whatever order. -/
theorem perm_whitelist_extract :
    (extract s ing).value.whitelist.cidr.Perm ((Clients.ofIngress ing).allowed s.backend) := by
  have hinherited : (Whitelist.inherited s.backend).cidr.Perm s.backend.whitelistSourceRange :=
    List.mergeSort_perm _ _
  have hget := get_extract s ing .whitelist
  rw [Resolved.get, Feature.resolve, Whitelist.value_resolve] at hget
  rw [hget]
  cases Clients.ofIngress ing with
  | unsaid => exact hinherited
  | unreadable text => exact hinherited
  | listed cidr => exact List.Perm.refl cidr

/-- The locations of an Ingress are denied exactly if the outcome of its allow list says so. -/
theorem isDenied_extract_iff :
    (extract s ing).value.isDenied = true ↔ ∃ text fallback,
      (Feature.whitelist.resolve s ing).value = .error (.denied text fallback) := by
  refine Resolved.isDenied_iff_of_errors fun f e => ?_
  rw [extract, Resolved.mem_errors_foldlM, and_iff_right f.mem_all]

/-- This is so exactly if the list is unreadable. -/
theorem isDenied_extract :
    (extract s ing).value.isDenied = (Clients.ofIngress ing).isUnreadable := by
  rw [Bool.eq_iff_iff, isDenied_extract_iff, Feature.resolve, Whitelist.value_resolve]
  cases Clients.ofIngress ing with
  | unsaid | listed cidr => simp [Clients.isUnreadable]
  | unreadable text => simp [Clients.isUnreadable]

/-- Two features can fail: the allow list, and the servers if they cannot be verified. -/
theorem isDegraded_extract :
    (extract s ing).value.isDegraded
      = ((Clients.ofIngress ing).isUnreadable || fails (ServerTls.resolve s.certificate? ing)) := by
  have hlist : fails (Feature.whitelist.resolve s ing).value
      = (Clients.ofIngress ing).isUnreadable := by
    rw [Feature.resolve, Whitelist.value_resolve]
    cases Clients.ofIngress ing <;> rfl
  rw [Bool.eq_iff_iff, isDegraded_extract_iff, Bool.or_eq_true, ← hlist]
  constructor
  · rintro ⟨f, hf⟩
    cases f with
    | whitelist => exact .inl hf
    | serverTls => exact .inr hf
    | cors | proxy | redirect | portInRedirect | sessionAffinity | healthCheck => cases hf
    | serviceAddress =>
        rw [Feature.resolve, value_resolveServiceAddress] at hf
        cases hread : boolOf ing Key.serviceAddress.name <;> rw [hread] at hf <;> cases hf
    | sslPassthrough =>
        rw [Feature.resolve, Passthrough.value_resolve] at hf
        cases hread : boolOf ing Key.sslPassthrough.name <;> rw [hread] at hf <;> cases hf
  · rintro (h | h)
    · exact ⟨.whitelist, h⟩
    · exact ⟨.serverTls, h⟩

end Extract

/-! ### What equality compares -/

/-- Configurations of a feature other than the allow list are the same if they are equal. -/
theorem Feature.same_iff {f : Feature} (hf : f ≠ .whitelist) (a b : f.Config) :
    f.same a b = true ↔ a = b := by
  cases f with
  | whitelist => exact absurd rfl hf
  | cors | proxy | redirect | portInRedirect | serverTls | serviceAddress | sessionAffinity
  | sslPassthrough | healthCheck => exact beq_iff_eq

/-- Two resolved configurations are the same if those of all features but the allow list are equal
and the lists are taken for the same. -/
theorem Resolved.sameAs_iff (a b : Resolved) :
    a.sameAs b = true
      ↔ (∀ f, f ≠ .whitelist → a.get f = b.get f) ∧ a.whitelist.sameAs b.whitelist = true := by
  rw [sameAs, List.all_eq_true]
  constructor
  · intro h
    exact ⟨fun f hf => (f.same_iff hf _ _).mp (h f f.mem_all), h .whitelist (by decide)⟩
  · rintro ⟨hothers, hlist⟩ f -
    by_cases hf : f = .whitelist
    · subst hf
      exact hlist
    · exact (f.same_iff hf _ _).mpr (hothers f hf)

namespace SourceRange

/-- Lists are taken for the same if they are of one length and one includes the other. -/
theorem sameAs_iff {a b : SourceRange} :
    a.sameAs b = true ↔ a.cidr.length = b.cidr.length ∧ a.cidr ⊆ b.cidr := by
  rw [sameAs, Bool.and_eq_true, beq_iff_eq, List.all_eq_true]
  simp only [List.contains_iff_mem]
  exact Iff.rfl

/-- Lists with the same entries in another order are taken for the same. -/
theorem sameAs_of_perm {a b : SourceRange} (h : a.cidr.Perm b.cidr) : a.sameAs b = true :=
  sameAs_iff.mpr ⟨h.length_eq, h.subset⟩

/-- Where the first list has no entry twice, no other lists are. -/
theorem perm_of_sameAs {a b : SourceRange} (h : a.sameAs b = true) (hnodup : a.cidr.Nodup) :
    a.cidr.Perm b.cidr := by
  obtain ⟨hlength, hsub⟩ := sameAs_iff.mp h
  exact (hnodup.subperm hsub).perm_of_length_le (Nat.le_of_eq hlength.symm)

end SourceRange

/-! ### What equality overlooks -/

/-- Two outcomes agree in everything that is served of them. -/
structure Unchanged (a b : Resolved) : Prop where
  /-- The features other than the allow list have equal configurations. -/
  configs : ∀ f, f ≠ .whitelist → a.get f = b.get f
  /-- The allow lists have the same entries, each as often. -/
  clients : a.whitelist.cidr.Perm b.whitelist.cidr
  /-- The locations are denied of both or of neither. -/
  denied : a.isDenied = b.isDenied
  /-- Both are degraded, or neither is. -/
  degraded : a.isDegraded = b.isDegraded

/-- Two Ingresses do not differ in what equality overlooks. -/
structure NothingOverlooked (s s' : Surroundings) (ing ing' : Ingress) : Prop where
  /-- Both allow lists are unreadable, or neither is. -/
  lists : (Clients.ofIngress ing).isUnreadable = (Clients.ofIngress ing').isUnreadable
  /-- If neither is, the servers can be verified of both as they ask, or of neither. -/
  servers : (Clients.ofIngress ing).isUnreadable = false →
    fails (ServerTls.resolve s.certificate? ing) = fails (ServerTls.resolve s'.certificate? ing')
  /-- If the first one inherits a list with an entry twice, the other one has the same list. -/
  repeats : (Clients.ofIngress ing).isInherited = true → ¬ s.backend.whitelistSourceRange.Nodup →
    s.backend.whitelistSourceRange.Perm ((Clients.ofIngress ing').allowed s'.backend)

section Pair

variable {s s' : Surroundings} {ing ing' : Ingress}

/-- Allow lists that are taken for the same are the same up to their order, where an inherited list
with an entry twice is. -/
theorem perm_of_repeats
    (hsame : SourceRange.sameAs (extract s ing).value.whitelist (extract s' ing').value.whitelist
      = true)
    (hrepeats : (Clients.ofIngress ing).isInherited = true →
      ¬ s.backend.whitelistSourceRange.Nodup →
      s.backend.whitelistSourceRange.Perm ((Clients.ofIngress ing').allowed s'.backend)) :
    (extract s ing).value.whitelist.cidr.Perm (extract s' ing').value.whitelist.cidr := by
  have hfirst := perm_whitelist_extract s ing
  have hsecond := perm_whitelist_extract s' ing'
  by_cases hnodup : ((Clients.ofIngress ing).allowed s.backend).Nodup
  · exact SourceRange.perm_of_sameAs hsame (hfirst.nodup_iff.mpr hnodup)
  · -- A list of its own has no entry twice, so this one is inherited.
    cases hclients : Clients.ofIngress ing with
    | listed cidr =>
        rw [hclients] at hnodup
        exact absurd (Clients.nodup_of_ofIngress hclients) hnodup
    | unsaid | unreadable text =>
        rw [hclients] at hfirst hnodup hrepeats
        exact hfirst.trans ((hrepeats rfl hnodup).trans hsecond.symm)

/-- Two Ingresses are resolved to outcomes that agree exactly if the outcomes count as the same and
the Ingresses do not differ in what equality overlooks. -/
theorem unchanged_extract_iff (s s' : Surroundings) (ing ing' : Ingress) :
    Unchanged (extract s ing).value (extract s' ing').value
      ↔ (extract s ing).value.sameAs (extract s' ing').value = true
        ∧ NothingOverlooked s s' ing ing' := by
  constructor
  · intro h
    have hdegraded := h.degraded
    rw [isDegraded_extract, isDegraded_extract] at hdegraded
    have hlists : (Clients.ofIngress ing).isUnreadable = (Clients.ofIngress ing').isUnreadable := by
      rw [← isDenied_extract s, ← isDenied_extract s', h.denied]
    refine ⟨(Resolved.sameAs_iff _ _).mpr ⟨h.configs, SourceRange.sameAs_of_perm h.clients⟩,
      hlists, ?_, ?_⟩
    · intro hreadable
      rw [← hlists, hreadable, Bool.false_or, Bool.false_or] at hdegraded
      exact hdegraded
    · intro hinherited _
      have hallowed : (Clients.ofIngress ing).allowed s.backend = s.backend.whitelistSourceRange := by
        cases hclients : Clients.ofIngress ing with
        | listed cidr => rw [hclients] at hinherited; cases hinherited
        | unsaid | unreadable text => rfl
      rw [← hallowed]
      exact (perm_whitelist_extract s ing).symm.trans
        (h.clients.trans (perm_whitelist_extract s' ing'))
  · rintro ⟨hsame, hnothing⟩
    obtain ⟨hconfigs, hlist⟩ := (Resolved.sameAs_iff _ _).mp hsame
    refine ⟨hconfigs, perm_of_repeats hlist hnothing.repeats, ?_, ?_⟩
    · rw [isDenied_extract, isDenied_extract, hnothing.lists]
    · rw [isDegraded_extract, isDegraded_extract, ← hnothing.lists]
      cases hunreadable : (Clients.ofIngress ing).isUnreadable with
      | true => rfl
      | false => rw [hnothing.servers hunreadable]

/-- An Ingress whose only client is unreadable counts as the same as one without an allow list,
although its locations must be denied and those of the other one are open to everyone. -/
theorem not_unchanged_of_unreadable_client :
    (extract Surroundings.bare (Key.ingressWith [(.whitelistSourceRange, "www")])).value.sameAs
        (extract Surroundings.bare {}).value = true ∧
      (extract Surroundings.bare {}).value.sameAs (extract Surroundings.bare
        (Key.ingressWith [(.whitelistSourceRange, "www")])).value = true ∧
      ¬ Unchanged (extract Surroundings.bare
          (Key.ingressWith [(.whitelistSourceRange, "www")])).value
        (extract Surroundings.bare {}).value := by
  refine ⟨by decide +kernel, by decide +kernel, fun h => ?_⟩
  have hlists := ((unchanged_extract_iff _ _ _ _).mp h).2.lists
  exact absurd hlists (by decide +kernel)

/-- If the allow list of an Ingress becomes unreadable where there was none, its locations must be
denied, but the Ingress counts as the same as before. Without the list it counts as the same again
as it did when they were denied. -/
theorem denial_overlooked (s : Surroundings)
    (h : ing.AgreeBut Key.whitelistSourceRange.name ing')
    (hbefore : Clients.ofIngress ing = .unsaid)
    (hafter : (Clients.ofIngress ing').isUnreadable = true) :
    (extract s ing).value.isDenied = false ∧ (extract s ing').value.isDenied = true ∧
      (extract s ing).value.sameAs (extract s ing').value = true ∧
      (extract s ing').value.sameAs (extract s ing).value = true := by
  have hothers : ∀ f, f ≠ .whitelist →
      (extract s ing').value.get f = (extract s ing).value.get f := by
    intro f hf
    have hkeys : ∀ key : Key, key.owner = f → key.name ≠ Key.whitelistSourceRange.name := by
      intro key hkey hname
      rw [Key.name_injective hname] at hkey
      exact hf hkey.symm
    rw [get_extract, get_extract, f.resolve_of_texts s h.inNamespace fun key hkey =>
      textOf_congr (h.others _ (hkeys key hkey))]
  -- The list of the default backend stands in for both: for one as its own outcome, for the other
  -- out of the error.
  have hinherited : (extract s ing').value.whitelist = (extract s ing).value.whitelist := by
    have hget := get_extract s ing .whitelist
    have hget' := get_extract s ing' .whitelist
    rw [Resolved.get, Feature.resolve, Whitelist.value_resolve] at hget hget'
    rw [hget, hget', hbefore]
    cases hclients : Clients.ofIngress ing' with
    | unsaid | unreadable text => rfl
    | listed cidr => rw [hclients] at hafter; cases hafter
  have hlist : SourceRange.sameAs (extract s ing).value.whitelist (extract s ing).value.whitelist
      = true := SourceRange.sameAs_of_perm (List.Perm.refl _)
  refine ⟨?_, ?_, ?_, ?_⟩
  · rw [isDenied_extract, hbefore]
    rfl
  · rw [isDenied_extract, hafter]
  · rw [Resolved.sameAs_iff, hinherited]
    exact ⟨fun f hf => (hothers f hf).symm, hlist⟩
  · rw [Resolved.sameAs_iff, hinherited]
    exact ⟨hothers, hlist⟩

end Pair

end IngressController.Annotations
