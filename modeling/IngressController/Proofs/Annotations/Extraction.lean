import IngressController.Proofs.Annotations.Degraded
import IngressController.Proofs.Annotations.Reading

/-!
# `IngressController.Proofs.Annotations.Extraction`: an extraction feature by feature

An extraction goes through the features with one record that every feature writes to, and the error
of a feature may set the list of clients, which is not always its own configuration. Still each
feature gets what its own outcome makes of it: only the allow list reports a denied location.

* `get_extract`: the configuration of a feature, by the outcome of this feature alone.
* `errors_extract` and `error?_extract`: likewise the error of a feature.
* `Resolved.isDenied_iff_of_errors`: whether the locations are denied, by the allow list alone.
* `extract_congr` and `value_extract_congr`: what is the same feature by feature is extracted the
  same.
-/

set_option autoImplicit false

namespace IngressController.Annotations

open Object

/-! ### What an outcome leaves -/

/-- The configuration that the outcome of a feature leaves in the place of another one. Of the
errors only a denied location brings one along. -/
def Feature.settle : (f : Feature) → f.Config → Except Error f.Config → f.Config
  | _, _, .ok config => config
  | .whitelist, _, .error (.denied _ fallback) => fallback
  | _, old, .error _ => old

theorem Feature.settle_ok (f : Feature) (old config : f.Config) :
    f.settle old (.ok config) = config := by
  cases f <;> rfl

/-- An error that does not deny the location leaves what was there. -/
theorem Feature.settle_error {f : Feature} {e : Error} (old : f.Config)
    (h : f = .whitelist → e.isDenied = false) : f.settle old (.error e) = old := by
  cases e with
  | missing | invalid _ _ | secretNotFound _ | verifyWithoutTls _ => cases f <;> rfl
  | denied text fallback =>
      cases f with
      | whitelist => cases h rfl
      | cors | proxy | redirect | portInRedirect | serverTls | serviceAddress | sessionAffinity
      | sslPassthrough | healthCheck => rfl

/-- The error that an outcome leaves: that an annotation is missing is none. -/
def recorded? {α : Type} : Except Error α → Option Error
  | .ok _ => none
  | .error e => if e.isMissing then none else some e

/-- Every error is recorded but that an annotation is missing. -/
theorem recorded?_eq_some_iff {α : Type} {outcome : Except Error α} {e : Error} :
    recorded? outcome = some e ↔ outcome = .error e ∧ e.isMissing = false := by
  cases outcome with
  | ok config => simp [recorded?]
  | error e' =>
      rw [recorded?, Except.error.injEq]
      split
      · next hmissing =>
          refine iff_of_false (fun h => by cases h) ?_
          rintro ⟨rfl, h⟩
          exact absurd hmissing (by rw [h]; exact Bool.false_ne_true)
      · next hmissing =>
          rw [Option.some.injEq]
          refine ⟨?_, fun h => h.1⟩
          rintro rfl
          exact ⟨rfl, eq_false_of_ne_true hmissing⟩

/-- Only the allow list denies locations. -/
theorem Feature.not_denied (s : Surroundings) (ing : Ingress) {f : Feature} (hf : f ≠ .whitelist)
    (value : String) (fallback : SourceRange) :
    (f.resolve s ing).value ≠ .error (.denied value fallback) := by
  intro h
  cases f with
  | whitelist => exact hf rfl
  | cors | proxy | redirect | portInRedirect | sessionAffinity | healthCheck => cases h
  | serverTls =>
      simp only [Feature.resolve, ServerTls.resolve, Reported.value_pure] at h
      split at h
      · cases h
      · split at h
        · cases h
        · split at h <;> cases h
  | serviceAddress =>
      rw [Feature.resolve, value_resolveServiceAddress] at h
      cases hread : boolOf ing Key.serviceAddress.name <;> rw [hread] at h <;> cases h
  | sslPassthrough =>
      rw [Feature.resolve, Passthrough.value_resolve] at h
      cases hread : boolOf ing Key.sslPassthrough.name <;> rw [hread] at h <;> cases h

namespace Resolved

/-! ### One feature -/

theorem get_set_self (r : Resolved) (f : Feature) (config : f.Config) :
    (r.set f config).get f = config := by
  cases f <;> rfl

theorem get_set_of_ne (r : Resolved) {f g : Feature} (config : f.Config) (h : g ≠ f) :
    (r.set f config).get g = r.get g := by
  cases f <;> cases g <;> first | rfl | exact absurd rfl h

/-- An error leaves its feature what it had, unless a location is denied. -/
theorem get_fail_self (r : Resolved) (f : Feature) (e : Error) :
    (r.fail f e).get f = f.settle (r.get f) (.error e) := by
  cases f <;> cases e <;> rfl

/-- It leaves the other features what they had, unless a location is denied. -/
theorem get_fail_of_not_denied (r : Resolved) (f g : Feature) {e : Error}
    (h : ∀ value fallback, e ≠ .denied value fallback) : (r.fail f e).get g = r.get g := by
  cases e with
  | denied value fallback => exact absurd rfl (h value fallback)
  | missing | invalid _ _ | secretNotFound _ | verifyWithoutTls _ => cases g <;> rfl

/-- A denied location changes the list of clients only. -/
theorem get_fail_of_ne (r : Resolved) (f : Feature) {g : Feature} (e : Error)
    (hg : g ≠ .whitelist) : (r.fail f e).get g = r.get g := by
  cases e <;> cases g <;> first | rfl | exact absurd rfl hg

section Step

variable (s : Surroundings) (ing : Ingress) (r : Resolved)

/-- A feature gets what its outcome makes of what it had. -/
theorem get_addFeature_self (f : Feature) :
    (addFeature s ing r f).value.get f = f.settle (r.get f) (f.resolve s ing).value := by
  rw [addFeature, Reported.value_bind]
  cases (f.resolve s ing).value with
  | ok config =>
      have hset : (r.addOutcome f (.ok config)).value.get f = config := r.get_set_self f config
      rw [hset]
      cases f <;> rfl
  | error e =>
      cases e with
      | missing => cases f <;> rfl
      | invalid _ _ | denied _ _ | secretNotFound _ | verifyWithoutTls _ =>
          exact r.get_fail_self f _

/-- The other features keep what they had. -/
theorem get_addFeature_of_ne {f g : Feature} (h : g ≠ f) :
    (addFeature s ing r f).value.get g = r.get g := by
  rw [addFeature, Reported.value_bind]
  cases hf : (f.resolve s ing).value with
  | ok config => exact r.get_set_of_ne config h
  | error e =>
      -- Either the feature whose turn it is denies no location, or the other one is not the list.
      have hfail : (r.fail f e).get g = r.get g := by
        by_cases hlist : f = .whitelist
        · exact r.get_fail_of_ne f e (hlist ▸ h)
        · refine r.get_fail_of_not_denied f g fun value fallback he => ?_
          exact Feature.not_denied s ing hlist value fallback (he ▸ hf)
      cases e with
      | missing => rfl
      | invalid _ _ | denied _ _ | secretNotFound _ | verifyWithoutTls _ => exact hfail

/-- The error of a feature is recorded behind the others. -/
theorem errors_addFeature (f : Feature) :
    (addFeature s ing r f).value.errors
      = r.errors ++ ((recorded? (f.resolve s ing).value).map (f, ·)).toList := by
  rw [addFeature, Reported.value_bind]
  cases (f.resolve s ing).value with
  | ok config => exact (r.errors_set f config).trans (List.append_nil _).symm
  | error e =>
      cases e with
      | missing => exact (List.append_nil _).symm
      | invalid _ _ | denied _ _ | secretNotFound _ | verifyWithoutTls _ => exact r.errors_fail f _

end Step

/-! ### All of them -/

/-- A feature gets what its outcome makes of what it had if its turn comes, and keeps it if not. -/
theorem get_foldlM (s : Surroundings) (ing : Ingress) (f : Feature) {features : List Feature}
    (h : features.Nodup) (r : Resolved) :
    (features.foldlM (addFeature s ing) r).value.get f
      = if f ∈ features then f.settle (r.get f) (f.resolve s ing).value else r.get f := by
  induction features generalizing r with
  | nil => rfl
  | cons g rest ih =>
      obtain ⟨hg, hrest⟩ := List.nodup_cons.mp h
      rw [List.foldlM_cons, Reported.value_bind, ih hrest]
      by_cases hf : f = g
      · subst hf
        rw [if_neg hg, if_pos List.mem_cons_self, get_addFeature_self]
      · simp only [get_addFeature_of_ne s ing r hf, List.mem_cons, hf, false_or]

/-- The errors are recorded in the order of the features. -/
theorem errors_foldlM (s : Surroundings) (ing : Ingress) (features : List Feature) (r : Resolved) :
    (features.foldlM (addFeature s ing) r).value.errors
      = r.errors ++ features.filterMap fun f => (recorded? (f.resolve s ing).value).map (f, ·) := by
  induction features generalizing r with
  | nil => exact (List.append_nil _).symm
  | cons f rest ih =>
      rw [List.foldlM_cons, Reported.value_bind, ih, errors_addFeature, List.append_assoc,
        List.filterMap_cons]
      cases recorded? (f.resolve s ing).value <;> rfl

/-- Which errors are recorded does not hang on the order of the features. -/
theorem mem_errors_foldlM (s : Surroundings) (ing : Ingress) (features : List Feature)
    (f : Feature) (e : Error) :
    (f, e) ∈ (features.foldlM (addFeature s ing) {}).value.errors
      ↔ f ∈ features ∧ recorded? (f.resolve s ing).value = some e := by
  rw [errors_foldlM]
  simp only [List.nil_append, List.mem_filterMap, Option.map_eq_some_iff, Prod.mk.injEq]
  constructor
  · rintro ⟨g, hg, e', hrecorded, rfl, rfl⟩
    exact ⟨hg, hrecorded⟩
  · rintro ⟨hf, hrecorded⟩
    exact ⟨f, hf, e, hrecorded, rfl, rfl⟩

/-- If the errors are those of the features, the locations of an Ingress are denied exactly if the
outcome of its allow list says so. -/
theorem isDenied_iff_of_errors {s : Surroundings} {ing : Ingress} {r : Resolved}
    (h : ∀ f e, (f, e) ∈ r.errors ↔ recorded? (f.resolve s ing).value = some e) :
    r.isDenied = true ↔ ∃ text fallback,
      (Feature.whitelist.resolve s ing).value = .error (.denied text fallback) := by
  rw [isDenied, List.any_eq_true]
  constructor
  · rintro ⟨⟨f, e⟩, hmem, hdenied⟩
    have houtcome := (recorded?_eq_some_iff.mp ((h f e).mp hmem)).1
    cases e with
    | missing | invalid _ _ | secretNotFound _ | verifyWithoutTls _ => cases hdenied
    | denied text fallback =>
        by_cases hf : f = .whitelist
        · subst hf
          exact ⟨text, fallback, houtcome⟩
        · exact absurd houtcome (Feature.not_denied s ing hf text fallback)
  · rintro ⟨text, fallback, houtcome⟩
    exact ⟨(.whitelist, .denied text fallback),
      (h _ _).mpr (recorded?_eq_some_iff.mpr ⟨houtcome, rfl⟩), rfl⟩

/-- A resolved configuration is what its features have and which errors it records. -/
theorem ext_get {r r' : Resolved} (hget : ∀ f, r.get f = r'.get f)
    (herrors : r.errors = r'.errors) : r = r' := by
  have hcors := hget .cors
  have hproxy := hget .proxy
  have hwhitelist := hget .whitelist
  have hredirect := hget .redirect
  have hport := hget .portInRedirect
  have htls := hget .serverTls
  have haddress := hget .serviceAddress
  have haffinity := hget .sessionAffinity
  have hpassthrough := hget .sslPassthrough
  have hhealth := hget .healthCheck
  cases r
  cases r'
  simp only [get] at *
  subst_vars
  rfl

end Resolved

section Extract

variable (s : Surroundings) (ing : Ingress)

/-- In an extraction a feature has what its own outcome makes of the built-in configuration. -/
theorem get_extract (f : Feature) :
    (extract s ing).value.get f
      = f.settle (({} : Resolved).get f) (f.resolve s ing).value := by
  have hnodup : Feature.all.Nodup := by decide
  rw [extract, Resolved.get_foldlM s ing f hnodup, if_pos f.mem_all]

/-- An extraction records the errors of its features. -/
theorem errors_extract :
    (extract s ing).value.errors
      = Feature.all.filterMap fun f => (recorded? (f.resolve s ing).value).map (f, ·) :=
  Resolved.errors_foldlM s ing Feature.all {}

/-- In a list with at most one entry for each feature, made from its error, a look-up finds it. -/
theorem find?_filterMap_errors (error? : Feature → Option Error) (f : Feature)
    (features : List Feature) :
    ((features.filterMap fun g => (error? g).map (g, ·)).find? fun entry => entry.1 == f).map (·.2)
      = if f ∈ features then error? f else none := by
  induction features with
  | nil => rfl
  | cons g rest ih =>
      rw [List.filterMap_cons]
      by_cases hf : f = g
      · subst hf
        rw [if_pos List.mem_cons_self]
        cases herror : error? f with
        | none =>
            -- Were there another entry for the feature, it would be made from no error as well.
            rw [herror] at ih
            simpa using ih
        | some e => simp
      · have hmem : f ∈ g :: rest ↔ f ∈ rest := by simp [hf]
        have hskip : (g == f) = false := by simpa using Ne.symm hf
        cases error? g with
        | none => simpa only [Option.map_none, hmem] using ih
        | some e => simpa only [Option.map_some, List.find?_cons, hskip, hmem] using ih

/-- In an extraction a feature has its own error. -/
theorem error?_extract (f : Feature) :
    (extract s ing).value.error? f = recorded? (f.resolve s ing).value := by
  rw [Resolved.error?, errors_extract,
    find?_filterMap_errors (fun g => recorded? (g.resolve s ing).value), if_pos f.mem_all]

end Extract

/-- If all features resolve and report the same, so does the extraction. -/
theorem extract_congr {s s' : Surroundings} {ing ing' : Ingress}
    (h : ∀ f : Feature, f.resolve s' ing' = f.resolve s ing) : extract s' ing' = extract s ing := by
  have hstep : Resolved.addFeature s' ing' = Resolved.addFeature s ing := by
    funext r f
    rw [Resolved.addFeature, Resolved.addFeature, h]
  rw [extract, extract, hstep]

/-- Outcomes that are the same feature by feature are extracted the same. -/
theorem value_extract_congr {s s' : Surroundings} {ing ing' : Ingress}
    (h : ∀ f : Feature, (f.resolve s' ing').value = (f.resolve s ing).value) :
    (extract s' ing').value = (extract s ing).value := by
  refine Resolved.ext_get (fun f => ?_) ?_
  · rw [get_extract, get_extract, h]
  · rw [errors_extract, errors_extract]
    simp only [h]

end IngressController.Annotations
