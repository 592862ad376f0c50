import IngressController.Proofs.Annotations.Ownership

/-!
# `IngressController.Proofs.Annotations.OlderKey`: the older key of a switch

Whether pages of other origins may use an Ingress is said by one of two keys. The older one is there
for Ingresses that have not been rewritten, and where the newer one is, it should make no
difference.

It makes none where the newer key has a truth value. But what is asked is whether the newer key can
be read and not whether it is there, and a value that cannot be read is no different from a missing
one: the older key decides. So an Ingress that says `no` by the newer key, a spelling that is no
truth value, is open to other origins if an older key has been left on it. The other features and
the errors are the same in any case, and no note tells that the newer key has not been followed.

* `HasSwitch`: the newer key is there and has a truth value.
* `enabled_extract`: by which of the two keys the policy is switched.
* `OlderKeyRole` and `olderKeyRole`: for which Ingresses the older key makes a difference, and what
  difference it makes.
-/

set_option autoImplicit false

namespace IngressController.Annotations

open Object

/-- An Ingress has the newer key of the switch, with a text that is a truth value. -/
def HasSwitch (ing : Ingress) : Prop :=
  ∃ text, ing.metadata.annotationText? Key.corsEnable.name = some text ∧
    (parseBool? text).isSome = true

theorem hasSwitch_iff {ing : Ingress} :
    HasSwitch ing ↔ ∃ enabled, boolOf ing Key.corsEnable.name = .ok enabled := by
  rw [HasSwitch, boolOf, readOf, textOf]
  cases ing.metadata.annotationText? Key.corsEnable.name with
  | none => simp
  | some text => cases hread : parseBool? text <;> simp [hread]

/-- Otherwise reading it ends in an error, be it missing or no truth value. -/
theorem exists_error_of_not_hasSwitch {ing : Ingress} (h : ¬ HasSwitch ing) :
    ∃ e, boolOf ing Key.corsEnable.name = .error e := by
  cases hread : boolOf ing Key.corsEnable.name with
  | ok enabled => exact absurd (hasSwitch_iff.mpr ⟨enabled, hread⟩) h
  | error e => exact ⟨e, rfl⟩

/-! ### The switch of an extraction -/

section Switch

variable (s : Surroundings) {ing ing' : Ingress}

/-- The policy of an extraction is switched by the newer key if that can be read, and by the older
one if not. -/
theorem enabled_extract (ing : Ingress) :
    (extract s ing).value.cors.enabled
      = orElse (boolOf ing Key.corsEnable.name) (orElse (boolOf ing Key.enableCors.name) false) := by
  have hcors : (extract s ing).value.cors = (Cors.resolve ing).value := get_extract s ing .cors
  rw [hcors, Cors.value_resolve, ← Cors.isEnabled_eq]
  cases Cors.isEnabled ing <;> rfl

/-- A key of the switch makes no difference to an extraction if it does not switch the policy. -/
theorem extract_of_isEnabled {key : Key} (hkey : key = .corsEnable ∨ key = .enableCors)
    (h : ing.AgreeBut key.name ing') (henabled : Cors.isEnabled ing' = Cors.isEnabled ing) :
    extract s ing' = extract s ing := by
  refine extract_congr fun f => ?_
  -- Only the policy has the keys of the switch, and it looks at them for nothing else.
  by_cases hf : f = .cors
  · subst hf
    rw [Feature.resolve, Feature.resolve, Cors.resolve_of_texts henabled]
    intro other _ hnewer holder
    refine textOf_congr (h.others _ fun hname => ?_)
    obtain rfl := Key.name_injective hname
    exact hkey.elim hnewer holder
  · refine Feature.resolve_of_owner_ne s h ?_
    obtain rfl | rfl := hkey <;> exact Ne.symm hf

/-- The newer key is read the same whatever the older one says. -/
theorem boolOf_corsEnable (h : ing.AgreeBut Key.enableCors.name ing') :
    boolOf ing' Key.corsEnable.name = boolOf ing Key.corsEnable.name :=
  readOf_congr (textOf_congr (h.others _ fun hname => by cases Key.name_injective hname))

/-- Where the newer key has a truth value, the older one makes no difference. -/
theorem extract_of_hasSwitch (hswitch : HasSwitch ing)
    (h : ing.AgreeBut Key.enableCors.name ing') : extract s ing' = extract s ing := by
  obtain ⟨enabled, hread⟩ := hasSwitch_iff.mp hswitch
  refine extract_of_isEnabled s (.inr rfl) h ?_
  rw [Cors.isEnabled_eq, Cors.isEnabled_eq, boolOf_corsEnable h, hread]
  rfl

/-- Where it has none, it could as well be missing. -/
theorem extract_unannotate_corsEnable (hnone : ¬ HasSwitch ing) :
    extract s (ing.unannotate Key.corsEnable.name) = extract s ing := by
  have hagree := ing.agreeBut_unannotate Key.corsEnable.name
  have hmissing : textOf (ing.unannotate Key.corsEnable.name) Key.corsEnable.name
      = .error .missing := by
    rw [textOf, Ingress.annotationText?_unannotate, if_pos rfl]
  have holder : boolOf (ing.unannotate Key.corsEnable.name) Key.enableCors.name
      = boolOf ing Key.enableCors.name :=
    readOf_congr (textOf_congr (hagree.others _ fun hname => by cases Key.name_injective hname))
  obtain ⟨e, hread⟩ := exists_error_of_not_hasSwitch hnone
  refine extract_of_isEnabled s (.inl rfl) hagree ?_
  -- Which of the two errors it is makes no difference to what stands in for the newer key.
  rw [Cors.isEnabled_eq, Cors.isEnabled_eq, holder, hread, boolOf, readOf, hmissing]
  rfl

/-- Then the older key switches the policy. -/
theorem enabled_of_not_hasSwitch (hnone : ¬ HasSwitch ing)
    (h : ing.AgreeBut Key.enableCors.name ing') :
    (extract s ing').value.cors.enabled = orElse (boolOf ing' Key.enableCors.name) false := by
  obtain ⟨e, hread⟩ := exists_error_of_not_hasSwitch hnone
  rw [enabled_extract, boolOf_corsEnable h, hread]
  rfl

/-- An Ingress whose policy does not hang on the older key has a truth value by the newer one. -/
theorem hasSwitch_of_cors_eq (hsame : ∀ ing', ing.AgreeBut Key.enableCors.name ing' →
    (extract s ing').value.cors = (extract s ing).value.cors) : HasSwitch ing := by
  by_contra hnone
  -- Otherwise the policy is switched on and off at once, by the two truth values of the older key.
  have hset : ∀ text enabled, parseBool? text = some enabled →
      (extract s ing).value.cors.enabled = enabled := by
    intro text enabled hread
    have hagree := ing.agreeBut_annotate Key.enableCors.name text
    rw [← hsame _ hagree, enabled_of_not_hasSwitch s hnone hagree, orElse_eq, boolOf,
      toOption_readOf, Ingress.annotationText?_annotate, if_pos rfl, Option.bind_some, hread]
    rfl
  have hon := hset "true" true (by decide)
  have hoff := hset "false" false (by decide)
  exact Bool.false_ne_true (hoff.symm.trans hon)

/-- The older key changes no error: what it says is a policy in any case. -/
theorem errors_of_olderKey (h : ing.AgreeBut Key.enableCors.name ing') :
    (extract s ing').value.errors = (extract s ing).value.errors := by
  have hrecorded : ∀ f : Feature,
      recorded? (f.resolve s ing').value = recorded? (f.resolve s ing).value := by
    intro f
    by_cases hf : f = .cors
    · subst hf
      rfl
    · rw [Feature.resolve_of_owner_ne s h (Ne.symm hf)]
  rw [errors_extract, errors_extract]
  simp only [hrecorded]

end Switch

/-! ### The older key -/

/-- What the older key of the switch means to an Ingress. -/
structure OlderKeyRole (s : Surroundings) (ing : Ingress) : Prop where
  /-- The Ingress is extracted the same, and the same is reported, whether the older key is there
  and whatever it says, exactly if the newer key has a truth value. -/
  ignored_iff :
    (∀ ing', ing.AgreeBut Key.enableCors.name ing' → extract s ing' = extract s ing)
      ↔ HasSwitch ing
  /-- For no other Ingress the policy is the same. -/
  policy_iff :
    (∀ ing', ing.AgreeBut Key.enableCors.name ing' →
      (extract s ing').value.cors = (extract s ing).value.cors) ↔ HasSwitch ing
  /-- A newer key without a truth value is no different from a missing one. -/
  unreadable : ¬ HasSwitch ing →
    extract s (ing.unannotate Key.corsEnable.name) = extract s ing
  /-- The older key then switches the policy. -/
  switched : ¬ HasSwitch ing → ∀ ing', ing.AgreeBut Key.enableCors.name ing' →
    (extract s ing').value.cors.enabled = orElse (boolOf ing' Key.enableCors.name) false
  /-- In any case the other features have what they had. -/
  others : ∀ ing', ing.AgreeBut Key.enableCors.name ing' → ∀ f, f ≠ .cors →
    (extract s ing').value.get f = (extract s ing).value.get f
  /-- And the errors are the same. -/
  errors : ∀ ing', ing.AgreeBut Key.enableCors.name ing' →
    (extract s ing').value.errors = (extract s ing).value.errors

/-- The older key makes no difference exactly to the Ingresses whose newer key has a truth value. To
any other it is all there is of the switch, and for none it changes more than the policy. -/
theorem olderKeyRole (s : Surroundings) (ing : Ingress) : OlderKeyRole s ing where
  ignored_iff := by
    refine ⟨fun hsame => ?_, fun hswitch ing' h => extract_of_hasSwitch s hswitch h⟩
    exact hasSwitch_of_cors_eq s fun ing' h => by rw [hsame ing' h]
  policy_iff := by
    refine ⟨hasSwitch_of_cors_eq s, fun hswitch ing' h => ?_⟩
    rw [extract_of_hasSwitch s hswitch h]
  unreadable := extract_unannotate_corsEnable s
  switched := fun hnone _ h => enabled_of_not_hasSwitch s hnone h
  others := by
    intro ing' h f hf
    rw [get_extract, get_extract, Feature.resolve_of_owner_ne s h (Ne.symm hf)]
  errors := fun _ h => errors_of_olderKey s h

/-- An Ingress that keeps other origins out by a word that is no truth value. An older key has been
left on it. -/
def misspelledSwitch : Ingress :=
  Key.ingressWith [(.corsEnable, "no"), (.enableCors, "true")]

/-- It is open to other origins, and would not be without the older key. -/
theorem not_ignored_of_misspelledSwitch :
    misspelledSwitch.metadata.annotationText? Key.corsEnable.name = some "no" ∧
      (extract Surroundings.bare misspelledSwitch).value.cors.enabled = true ∧
      (extract Surroundings.bare
        (misspelledSwitch.unannotate Key.enableCors.name)).value.cors.enabled = false ∧
      ¬ ∀ ing', misspelledSwitch.AgreeBut Key.enableCors.name ing' →
        (extract Surroundings.bare ing').value.cors
          = (extract Surroundings.bare misspelledSwitch).value.cors := by
  have htext : misspelledSwitch.metadata.annotationText? Key.corsEnable.name = some "no" := by
    decide +kernel
  refine ⟨htext, by decide +kernel, by decide +kernel, fun hsame => ?_⟩
  obtain ⟨text, hnewer, hread⟩ := (olderKeyRole _ _).policy_iff.mp hsame
  rw [htext, Option.some.injEq] at hnewer
  subst hnewer
  exact absurd hread (by decide)

end IngressController.Annotations
