import IngressController.Proofs.Annotations.Whitelist
import IngressController.Proofs.Metrics
import Mathlib.Data.List.Count

/-!
# `IngressController.Proofs.Annotations.AnyOrder`: an extraction and its features alone

An extraction goes through the features one after the other, with one record that all of them write
to, and tells three kinds of errors apart on the way. What comes out is no more than what the
features come to when each is resolved on its own: its configuration if it can be honoured, the list
that a denied location carries along, the built-in configuration otherwise, and its error if it
fails, recorded and counted once. The order in which the features are visited makes no difference to
any of this.

* `extractInOrder`: an extraction with the features in an order of their own.
* `measurements_foldlM`: what is measured on the way, feature by feature.
* `FeatureByFeature` and `featureByFeature`: an extraction agrees with its features alone, in
  whatever order they are visited.
-/

set_option autoImplicit false

namespace IngressController.Annotations

open Object Metrics

/-! ### What is measured -/

/-- Nothing is measured where a text that cannot be read is only reported. -/
theorem measurements_warnUnlessMissing {α : Type} (e : Error) (line : String) (a : α) :
    (do
      if !e.isMissing then Reported.log .warn line
      pure a : Reported α).measurements = [] := by
  cases e <;> rfl

theorem Cors.measurements_checked (ing : Ingress) (key : Key) (isValid : String → Bool)
    (default : String) : (checked ing key isValid default).measurements = [] := by
  rw [checked]
  split
  · split
    · rfl
    · split <;> rfl
  · rfl

theorem Proxy.measurements_checkedBodySize (size : String) :
    (checkedBodySize size).measurements = [] := by
  rw [checkedBodySize]
  split
  · rfl
  · split <;> rfl

/-- The features report what they leave out and measure nothing themselves. -/
theorem Feature.measurements_resolve (s : Surroundings) (ing : Ingress) (f : Feature) :
    (f.resolve s ing).measurements = [] := by
  cases f with
  | redirect | serverTls | sessionAffinity | healthCheck => rfl
  | cors =>
      rw [Feature.resolve, Reported.measurements_map, Cors.resolve]
      split
      · simp only [Reported.measurements_bind, Cors.measurements_checked,
          Reported.measurements_pure, List.append_nil]
      · rfl
  | proxy =>
      rw [Feature.resolve, Reported.measurements_map, Proxy.resolve]
      simp only [Reported.measurements_bind, Proxy.measurements_checkedBodySize,
        Reported.measurements_pure, List.append_nil]
  | whitelist =>
      rw [Feature.resolve, Whitelist.resolve]
      split
      · rfl
      · dsimp only
        split
        · rfl
        · split <;> rfl
  | portInRedirect =>
      rw [Feature.resolve, Reported.measurements_map, resolvePortInRedirect]
      split
      · rfl
      · exact measurements_warnUnlessMissing _ _ _
  | serviceAddress =>
      rw [Feature.resolve, resolveServiceAddress]
      split
      · rfl
      · exact measurements_warnUnlessMissing _ _ _
  | sslPassthrough =>
      rw [Feature.resolve, Passthrough.resolve]
      split
      · rfl
      · exact measurements_warnUnlessMissing _ _ _

section Order

variable (s : Surroundings) (ing : Ingress)

/-- A failure is measured under the name of its feature. -/
theorem Resolved.measurements_addFeature (r : Resolved) (f : Feature) :
    (addFeature s ing r f).measurements
      = if fails (f.resolve s ing).value then [.annotationError f.name] else [] := by
  rw [addFeature, Reported.measurements_bind, f.measurements_resolve, List.nil_append]
  cases (f.resolve s ing).value with
  | ok config => rfl
  | error e => cases e <;> rfl

/-- The failures are measured in the order of their features. -/
theorem measurements_foldlM (order : List Feature) (r : Resolved) :
    (order.foldlM (Resolved.addFeature s ing) r).measurements
      = ((order.filter fun f => fails (f.resolve s ing).value).map Feature.name).map
          Measurement.annotationError := by
  induction order generalizing r with
  | nil => rfl
  | cons f rest ih =>
      rw [List.foldlM_cons, Reported.measurements_bind, ih, Resolved.measurements_addFeature]
      cases hfails : fails (f.resolve s ing).value <;> simp [hfails]

end Order

/-! ### The features in any order -/

/-- Resolves the features of an Ingress in some order. -/
def extractInOrder (order : List Feature) (s : Surroundings) (ing : Ingress) : Reported Resolved :=
  order.foldlM (Resolved.addFeature s ing) {}

/-- No two features share a name. -/
theorem Feature.name_injective : Function.Injective Feature.name := by
  intro f f' h
  have hnodup : (all.map name).Nodup := by decide +kernel
  exact List.inj_on_of_nodup_map hnodup f.mem_all f'.mem_all h

/-- An outcome holds what the features of an Ingress come to when each is resolved on its own. -/
structure FeatureByFeature (s : Surroundings) (ing : Ingress) (outcome : Reported Resolved) :
    Prop where
  /-- A feature that can be honoured has its configuration. -/
  honoured : ∀ (f : Feature) (config : f.Config), (f.resolve s ing).value = .ok config →
    outcome.value.get f = config
  /-- A denied location has the list of clients that the error carries along. -/
  denied : ∀ text fallback,
    (Feature.whitelist.resolve s ing).value = .error (.denied text fallback) →
      outcome.value.whitelist = fallback
  /-- Any other error leaves its feature the built-in configuration. -/
  builtIn : ∀ (f : Feature) (e : Error), (f.resolve s ing).value = .error e →
    (f = .whitelist → e.isDenied = false) → outcome.value.get f = ({} : Resolved).get f
  /-- The errors are those of the features, but for missing annotations. -/
  errors : ∀ (f : Feature) (e : Error), (f, e) ∈ outcome.value.errors ↔
    (f.resolve s ing).value = .error e ∧ e.isMissing = false
  /-- No feature has two errors. -/
  oneError : (outcome.value.errors.map (·.1)).Nodup
  /-- Of all metrics one changes: the count of a feature goes up by one if it has an error. -/
  counted : ∀ r : Registry, ∃ counter : TextMap Nat,
    r.recordAll outcome.notes = { r with annotationErrors := counter } ∧
      ∀ f : Feature, (counter.get? f.name).getD 0 = (r.annotationErrors.get? f.name).getD 0 +
        if f ∈ outcome.value.errors.map (·.1) then 1 else 0
  /-- The locations are denied exactly if there is a list of clients without an entry. -/
  isDenied : outcome.value.isDenied = true ↔
    ∃ value, Whitelist.text? ing = some value ∧ ∀ part, ¬ Whitelist.Names value part

section Order

variable (s : Surroundings) (ing : Ingress) {order : List Feature}

/-- In whatever order the features are visited, each has what its own outcome makes of the built-in
configuration. -/
theorem get_extractInOrder (h : order.Perm Feature.all) (f : Feature) :
    (extractInOrder order s ing).value.get f
      = f.settle (({} : Resolved).get f) (f.resolve s ing).value := by
  have hnodup : order.Nodup := h.nodup_iff.mpr (by decide)
  have hmem : f ∈ order := h.mem_iff.mpr f.mem_all
  rw [extractInOrder, Resolved.get_foldlM s ing f hnodup, if_pos hmem]

theorem mem_errors_extractInOrder (h : order.Perm Feature.all) (f : Feature) (e : Error) :
    (f, e) ∈ (extractInOrder order s ing).value.errors
      ↔ recorded? (f.resolve s ing).value = some e := by
  rw [extractInOrder, Resolved.mem_errors_foldlM, and_iff_right (h.mem_iff.mpr f.mem_all)]

/-- The features with an error are those that fail, in the order in which they are visited. -/
theorem map_errors_extractInOrder (order : List Feature) :
    (extractInOrder order s ing).value.errors.map (·.1)
      = order.filter fun f => fails (f.resolve s ing).value := by
  rw [extractInOrder, Resolved.errors_foldlM, List.nil_append]
  induction order with
  | nil => rfl
  | cons f rest ih =>
      rw [List.filterMap_cons, List.filter_cons]
      cases (f.resolve s ing).value with
      | ok config => exact ih
      | error e =>
          cases e with
          | missing => exact ih
          | invalid _ _ | denied _ _ | secretNotFound _ | verifyWithoutTls _ =>
              exact congrArg (f :: ·) ih

/-- After an extraction the count of each feature with an error has gone up by one. -/
theorem recordAll_extractInOrder (order : List Feature) (r : Registry) :
    r.recordAll (extractInOrder order s ing).notes
      = { r with
          annotationErrors := List.foldl increment r.annotationErrors
            (((extractInOrder order s ing).value.errors.map (·.1)).map Feature.name) } := by
  have hmeasured := measurements_foldlM s ing order {}
  rw [← map_errors_extractInOrder] at hmeasured
  exact (congrArg (·.foldl Registry.record r) hmeasured).trans
    (foldl_record_annotationErrors _ r)

/-- An extraction holds what the features of the Ingress come to on their own, and so it would if
they were visited in another order. -/
theorem featureByFeature (h : order.Perm Feature.all) :
    FeatureByFeature s ing (extract s ing) ∧ FeatureByFeature s ing (extractInOrder order s ing) := by
  suffices hall : ∀ order : List Feature, order.Perm Feature.all →
      FeatureByFeature s ing (extractInOrder order s ing) from
    ⟨hall Feature.all (List.Perm.refl _), hall order h⟩
  intro order h
  have hnodup : ((extractInOrder order s ing).value.errors.map (·.1)).Nodup := by
    rw [map_errors_extractInOrder]
    exact (h.nodup_iff.mpr (by decide : Feature.all.Nodup)).filter _
  refine ⟨?_, ?_, ?_, ?_, hnodup, ?_, ?_⟩
  · intro f config houtcome
    rw [get_extractInOrder s ing h, houtcome, Feature.settle_ok]
  · intro text fallback houtcome
    have hget := get_extractInOrder s ing h .whitelist
    rwa [houtcome] at hget
  · intro f e houtcome hlist
    rw [get_extractInOrder s ing h, houtcome, Feature.settle_error _ hlist]
  · intro f e
    rw [mem_errors_extractInOrder s ing h, recorded?_eq_some_iff]
  · intro r
    refine ⟨_, recordAll_extractInOrder s ing order r, fun f => ?_⟩
    rw [getD_get?_foldl_increment, List.count_map_of_injective _ _ Feature.name_injective,
      hnodup.count]
  · rw [Resolved.isDenied_iff_of_errors (mem_errors_extractInOrder s ing h)]
    rcases Whitelist.value_resolve_cases s.backend ing with
      ⟨htext, hvalue⟩ | ⟨value, htext, hnames, hvalue⟩ | ⟨value, htext, hnone, hvalue⟩
    · simp [Feature.resolve, hvalue, htext]
    · refine iff_of_false ?_ ?_
      · rintro ⟨text, fallback, hdenied⟩
        cases hvalue.symm.trans hdenied
      · rintro ⟨value', htext', hnone⟩
        cases htext.symm.trans htext'
        exact (not_exists.mpr hnone) hnames
    · exact iff_of_true ⟨_, _, hvalue⟩ ⟨value, htext, hnone⟩

end Order

/-- An Ingress whose clients cannot be read and whose servers are to be verified against a secret
that is not there. That its service address is no truth value counts as a missing annotation. -/
def misconfiguredIngress : Ingress :=
  Key.ingressWith [(.corsEnable, "true"), (.whitelistSourceRange, "everyone"),
    (.secureBackends, "true"), (.secureVerifyCaSecret, "ca"), (.serviceAddress, "maybe")]

/-- From the last feature to the first, this Ingress has two errors, each counted once, and its
locations are denied. -/
theorem featureByFeature_reversed :
    Feature.all.reverse.Perm Feature.all ∧
      FeatureByFeature Surroundings.bare misconfiguredIngress
        (extractInOrder Feature.all.reverse Surroundings.bare misconfiguredIngress) ∧
      (extractInOrder Feature.all.reverse Surroundings.bare
        misconfiguredIngress).value.errors.map (·.1) = [.serverTls, .whitelist] ∧
      (extract Surroundings.bare misconfiguredIngress).value.isDenied = true := by
  have hperm : Feature.all.reverse.Perm Feature.all := List.reverse_perm _
  obtain ⟨-, hreversed⟩ := featureByFeature Surroundings.bare misconfiguredIngress hperm
  exact ⟨hperm, hreversed, by decide +kernel, by decide +kernel⟩

end IngressController.Annotations
