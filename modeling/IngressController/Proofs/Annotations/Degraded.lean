import IngressController.Annotations.Extract

/-!
# `IngressController.Proofs.Annotations.Degraded`: what makes an Ingress degraded

Features are resolved on their own, and an Ingress is degraded if one of them fails for another
reason than a missing annotation. All but one of them read nothing besides the Ingress and the
default backend; the servers are verified against an authority that a secret has to hold.

* `isDegraded_extract_iff`: an Ingress is degraded exactly if some feature of it fails.
* `HangsOn`: nothing but a secret decides whether an Ingress is degraded, and
  `isDegraded_eq_iff`: without another default backend, nothing but such a secret changes it.
-/

set_option autoImplicit false

namespace IngressController.Annotations

open Object

/-! ### Features that fail -/

/-- Whether the outcome of a feature counts against the Ingress. -/
def fails {α : Type} : Except Error α → Bool
  | .ok _ => false
  | .error e => !e.isMissing

/-- Setting the configuration of a feature records no error. -/
theorem Resolved.errors_set (r : Resolved) (f : Feature) (config : f.Config) :
    (r.set f config).errors = r.errors := by
  cases f <;> rfl

/-- Taking an error into a resolved configuration records it. -/
theorem Resolved.errors_fail (r : Resolved) (f : Feature) (e : Error) :
    (r.fail f e).errors = r.errors ++ [(f, e)] := by
  cases e <;> rfl

/-- One more outcome makes an Ingress degraded if it counts against it. -/
theorem Resolved.isDegraded_addOutcome (r : Resolved) (f : Feature)
    (outcome : Except Error f.Config) :
    (r.addOutcome f outcome).value.isDegraded = (r.isDegraded || fails outcome) := by
  have hfail : ∀ e, (r.fail f e).isDegraded = true := by
    intro e
    rw [isDegraded, errors_fail]
    cases r.errors <;> rfl
  cases outcome with
  | ok config =>
      show (r.set f config).isDegraded = _
      rw [isDegraded, errors_set, fails, Bool.or_false, isDegraded]
  | error e =>
      cases e with
      | missing => exact (Bool.or_false _).symm
      | invalid name value => exact (hfail _).trans (Bool.or_true _).symm
      | denied value fallback => exact (hfail _).trans (Bool.or_true _).symm
      | secretNotFound name => exact (hfail _).trans (Bool.or_true _).symm
      | verifyWithoutTls secret => exact (hfail _).trans (Bool.or_true _).symm

/-- The features of a list make an Ingress degraded if one of them fails. -/
theorem Resolved.isDegraded_foldlM (s : Surroundings) (ing : Ingress) (features : List Feature)
    (r : Resolved) :
    (features.foldlM (addFeature s ing) r).value.isDegraded
      = (r.isDegraded || features.any fun f => fails (f.resolve s ing).value) := by
  induction features generalizing r with
  | nil => exact (Bool.or_false _).symm
  | cons f features ih =>
      rw [List.foldlM_cons, Reported.value_bind, ih, addFeature, Reported.value_bind,
        isDegraded_addOutcome, List.any_cons, Bool.or_assoc]

/-- An Ingress is degraded exactly if one of its features fails. -/
theorem isDegraded_extract_iff (s : Surroundings) (ing : Ingress) :
    (extract s ing).value.isDegraded = true
      ↔ ∃ f : Feature, fails (f.resolve s ing).value = true := by
  have hextract := Resolved.isDegraded_foldlM s ing Feature.all {}
  rw [extract, hextract, show ({} : Resolved).isDegraded = false from rfl, Bool.false_or,
    List.any_eq_true]
  exact ⟨fun ⟨f, _, hf⟩ => ⟨f, hf⟩, fun ⟨f, hf⟩ => ⟨f, f.mem_all, hf⟩⟩

/-! ### Features that read a secret -/

/-- Only one feature looks up certificates. -/
theorem Feature.resolve_congr {s s' : Surroundings} (hbackend : s.backend = s'.backend)
    (ing : Ingress) {f : Feature} (hf : f ≠ .serverTls) : f.resolve s ing = f.resolve s' ing := by
  cases f <;> first | exact absurd rfl hf | simp only [Feature.resolve, hbackend]

/-- Whether an Ingress asks for its servers to be talked to in TLS. -/
def asksForTls (ing : Ingress) : Bool :=
  orElse (boolOf ing Key.secureBackends.name) false

/-- The name of the secret with the authority that an Ingress asks its servers to be verified
against, empty if it does not. -/
def authorityName (ing : Ingress) : String :=
  orElse (textOf ing Key.secureVerifyCaSecret.name) ""

/-- Servers that are to be verified have to be talked to in TLS, and the secret has to hold an
authority. -/
theorem fails_serverTls (certificate? : String → Option Certificate) (ing : Ingress) :
    fails (ServerTls.resolve certificate? ing)
      = (decide (authorityName ing ≠ "") && (!asksForTls ing
        || (certificate? (qualifiedName (authorityName ing) ing.metadata.namespaceText)).isNone)) := by
  rw [ServerTls.resolve, show orElse (textOf ing Key.secureVerifyCaSecret.name) ""
    = authorityName ing from rfl, show orElse (boolOf ing Key.secureBackends.name) false
    = asksForTls ing from rfl]
  by_cases hname : authorityName ing = ""
  · simp [hname, fails]
  · cases asksForTls ing with
    | false => simp [hname, fails, Error.isMissing]
    | true =>
        cases hsecret :
          certificate? (qualifiedName (authorityName ing) ing.metadata.namespaceText) <;>
          simp [hname, hsecret, fails, Error.isMissing]

/-- None of the features that look up no certificate fails. -/
def OthersHold (s : Surroundings) (ing : Ingress) : Prop :=
  ∀ f : Feature, f ≠ .serverTls → fails (f.resolve s ing).value = false

/-- Whether they fail is up to the default backend. -/
theorem OthersHold.congr {s s' : Surroundings} {ing : Ingress} (h : OthersHold s ing)
    (hbackend : s.backend = s'.backend) : OthersHold s' ing :=
  fun f hf => Feature.resolve_congr hbackend ing hf ▸ h f hf

/-- Whether an Ingress is degraded hangs on nothing but whether a secret holds an authority. -/
structure HangsOn (backend : DefaultBackend) (ing : Ingress) (secret : String) : Prop where
  /-- None of the features that read no secret fails. -/
  others : OthersHold { backend, certificate? := fun _ => none } ing
  /-- The servers are talked to in TLS. -/
  tls : asksForTls ing = true
  /-- They are to be verified. -/
  verified : authorityName ing ≠ ""
  /-- The authority is the one of the secret. -/
  secret : secret = qualifiedName (authorityName ing) ing.metadata.namespaceText

section Surroundings

variable {s s' : Surroundings} {ing : Ingress} {secret : String}

/-- Without a failure of another feature, an Ingress is degraded if its servers cannot be talked to
as it asks. -/
theorem OthersHold.isDegraded (h : OthersHold s ing) :
    (extract s ing).value.isDegraded = fails (ServerTls.resolve s.certificate? ing) := by
  rw [Bool.eq_iff_iff, isDegraded_extract_iff]
  constructor
  · rintro ⟨f, hf⟩
    by_cases htls : f = .serverTls
    · subst htls
      exact hf
    · rw [h f htls] at hf
      exact absurd hf Bool.false_ne_true
  · exact fun htls => ⟨.serverTls, htls⟩

/-- An Ingress that hangs on a secret is degraded exactly if the secret holds no authority. -/
theorem HangsOn.isDegraded (h : HangsOn s.backend ing secret) :
    (extract s ing).value.isDegraded = (s.certificate? secret).isNone := by
  have hothers : OthersHold s ing := h.others.congr rfl
  rw [hothers.isDegraded, fails_serverTls, h.tls, h.secret]
  simp [h.verified]

/-- Against the same default backend, an Ingress is as degraded as it was exactly if the secret
that it hangs on, should there be one, holds an authority as it did. -/
theorem isDegraded_eq_iff (hbackend : s.backend = s'.backend) (ing : Ingress) :
    (extract s ing).value.isDegraded = (extract s' ing).value.isDegraded
      ↔ ∀ secret, HangsOn s.backend ing secret →
        (s.certificate? secret).isSome = (s'.certificate? secret).isSome := by
  constructor
  · intro heq secret h
    rw [h.isDegraded, (hbackend ▸ h : HangsOn s'.backend ing secret).isDegraded] at heq
    rw [← Option.not_isNone, ← Option.not_isNone, heq]
  · intro hsecret
    by_cases hothers : OthersHold s ing
    · rw [hothers.isDegraded, (hothers.congr hbackend).isDegraded, fails_serverTls,
        fails_serverTls]
      by_cases hname : authorityName ing = ""
      · simp [hname]
      · cases htls : asksForTls ing with
        | false => rfl
        | true =>
            have h : HangsOn s.backend ing _ := ⟨hothers.congr rfl, htls, hname, rfl⟩
            rw [← Option.not_isSome, ← Option.not_isSome, hsecret _ h]
    · -- A feature that reads no secret fails both times.
      obtain ⟨f, hf⟩ := Classical.not_forall.mp hothers
      obtain ⟨htls, hfails⟩ := Classical.not_imp.mp hf
      have hfails : fails (f.resolve s ing).value = true := eq_true_of_ne_false hfails
      rw [(isDegraded_extract_iff s ing).mpr ⟨f, hfails⟩, (isDegraded_extract_iff s' ing).mpr
        ⟨f, Feature.resolve_congr hbackend ing htls ▸ hfails⟩]

end Surroundings

end IngressController.Annotations
