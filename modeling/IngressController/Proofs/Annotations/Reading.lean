import IngressController.Annotations.Extract

/-!
# `IngressController.Proofs.Annotations.Reading`: what a feature reads of an Ingress

A feature looks at the namespace of an Ingress and at the annotations whose keys belong to it, and
at nothing else. So two Ingresses that agree on these are the same to the feature, in what it
resolves and in what it reports on the way.

* `Ingress.AgreeBut`: two Ingresses agree on everything that features look at, but for one
  annotation. Setting an annotation and removing it lead to such an Ingress.
* `Feature.resolve_of_texts`: a feature resolves the same if all texts of its own keys are the same.
* `toOption_readOf`, `nonemptyText_eq` and their companions: readers by the text that is there.
* `Cors.value_resolve` and its companions: the values of features, without what they report.
-/

set_option autoImplicit false

namespace IngressController

namespace Object.Ingress

/-- Two Ingresses in one namespace whose annotations are the same but for one of a given name. The
rest of them may differ, as the version does after every change. -/
structure AgreeBut (name : String) (ing ing' : Ingress) : Prop where
  /-- They are in the same namespace. -/
  inNamespace : ing'.metadata.namespaceText = ing.metadata.namespaceText
  /-- Every other annotation is in both, with the same text, or in neither. -/
  others : ∀ other, other ≠ name →
    ing'.metadata.annotationText? other = ing.metadata.annotationText? other

/-- An Ingress with the text of an annotation set. -/
def annotate (ing : Ingress) (name text : String) : Ingress :=
  { ing with metadata := { ing.metadata with
      annotations := some ((ing.metadata.annotations.getD ∅).insert name text) } }

/-- An Ingress without an annotation. -/
def unannotate (ing : Ingress) (name : String) : Ingress :=
  { ing with metadata := { ing.metadata with
      annotations := ing.metadata.annotations.map (·.erase name) } }

theorem annotationText?_annotate (ing : Ingress) (name text other : String) :
    (ing.annotate name text).metadata.annotationText? other
      = if name = other then some text else ing.metadata.annotationText? other := by
  have hset : (ing.annotate name text).metadata.annotationText? other
      = ((ing.metadata.annotations.getD ∅).insert name text).get? other := rfl
  rw [hset, TextMap.get?_insert, Metadata.annotationText?]
  cases ing.metadata.annotations <;> rfl

theorem annotationText?_unannotate (ing : Ingress) (name other : String) :
    (ing.unannotate name).metadata.annotationText? other
      = if name = other then none else ing.metadata.annotationText? other := by
  rw [unannotate, Metadata.annotationText?, Metadata.annotationText?]
  cases ing.metadata.annotations with
  | none => simp
  | some annotations => exact annotations.get?_erase name other

/-- Setting an annotation changes no other one. -/
theorem agreeBut_annotate (ing : Ingress) (name text : String) :
    AgreeBut name ing (ing.annotate name text) where
  inNamespace := rfl
  others := fun other hne => by rw [annotationText?_annotate, if_neg (Ne.symm hne)]

/-- Removing an annotation changes no other one. -/
theorem agreeBut_unannotate (ing : Ingress) (name : String) :
    AgreeBut name ing (ing.unannotate name) where
  inNamespace := rfl
  others := fun other hne => by rw [annotationText?_unannotate, if_neg (Ne.symm hne)]

end Object.Ingress

namespace Annotations

open Object

/-- An Ingress with some annotations and nothing else. -/
def Key.ingressWith (annotations : List (Key × String)) : Ingress :=
  annotations.foldl (fun ing entry => ing.annotate entry.1.name entry.2) {}

/-- Surroundings with the built-in default backend and without any certificate. -/
def Surroundings.bare : Surroundings where
  backend := {}
  certificate? := fun _ => none

section Texts

variable {ing ing' : Ingress}

/-- An annotation with the same text is read the same. -/
theorem textOf_congr {name : String}
    (h : ing'.metadata.annotationText? name = ing.metadata.annotationText? name) :
    textOf ing' name = textOf ing name := by
  rw [textOf, textOf, h]

/-- Whatever is read of such an annotation is the same. -/
theorem readOf_congr {α : Type} {read? : String → Option α} {name : String}
    (h : textOf ing' name = textOf ing name) :
    readOf read? ing' name = readOf read? ing name := by
  rw [readOf, readOf, h]

/-- A policy hangs on whether it is switched on and, the keys of the switch apart, on the texts of
its keys. -/
theorem Cors.resolve_of_texts (henabled : isEnabled ing' = isEnabled ing)
    (h : ∀ key : Key, key.owner = .cors → key ≠ .corsEnable → key ≠ .enableCors →
      textOf ing' key.name = textOf ing key.name) :
    resolve ing' = resolve ing := by
  have hchecked : ∀ (key : Key) isValid default, key.owner = .cors → key ≠ .corsEnable →
      key ≠ .enableCors →
      checked ing' key isValid default = checked ing key isValid default := by
    intro key isValid default hkey hnewer holder
    rw [checked, checked, h key hkey hnewer holder]
  have hcredentials : boolOf ing' Key.corsAllowCredentials.name
      = boolOf ing Key.corsAllowCredentials.name :=
    readOf_congr (h .corsAllowCredentials rfl (by decide) (by decide))
  have hage : intOf ing' Key.corsMaxAge.name = intOf ing Key.corsMaxAge.name :=
    readOf_congr (h .corsMaxAge rfl (by decide) (by decide))
  rw [resolve, resolve, henabled,
    hchecked .corsAllowOrigin _ _ rfl (by decide) (by decide),
    hchecked .corsAllowHeaders _ _ rfl (by decide) (by decide),
    hchecked .corsAllowMethods _ _ rfl (by decide) (by decide),
    hchecked .corsExposeHeaders _ _ rfl (by decide) (by decide), hcredentials, hage]

/-- A feature resolves the same, and reports the same, for two Ingresses in one namespace if all
annotations that belong to it have the same texts in both. -/
theorem Feature.resolve_of_texts (s : Surroundings) (f : Feature)
    (hnamespace : ing'.metadata.namespaceText = ing.metadata.namespaceText)
    (h : ∀ key : Key, key.owner = f → textOf ing' key.name = textOf ing key.name) :
    f.resolve s ing' = f.resolve s ing := by
  -- Truth values and numbers are read of the texts, so they are the same as well.
  have hbool : ∀ key : Key, key.owner = f → boolOf ing' key.name = boolOf ing key.name :=
    fun key hkey => readOf_congr (h key hkey)
  have hint : ∀ key : Key, key.owner = f → intOf ing' key.name = intOf ing key.name :=
    fun key hkey => readOf_congr (h key hkey)
  cases f with
  | cors =>
      have henabled : Cors.isEnabled ing' = Cors.isEnabled ing := by
        rw [Cors.isEnabled, Cors.isEnabled, hbool .corsEnable rfl, hbool .enableCors rfl]
      rw [Feature.resolve, Feature.resolve,
        Cors.resolve_of_texts henabled fun key hkey _ _ => h key hkey]
  | proxy =>
      simp only [Feature.resolve, Proxy.resolve, nonemptyText, h .proxyBodySize rfl,
        hint .proxyConnectTimeout rfl, hint .proxySendTimeout rfl, hint .proxyReadTimeout rfl,
        h .proxyBufferSize rfl, h .proxyCookieDomain rfl, h .proxyCookiePath rfl,
        h .proxyNextServer rfl, h .proxyPassParams rfl, h .proxyRequestBuffering rfl]
  | whitelist =>
      rw [Feature.resolve, Feature.resolve, Whitelist.resolve, Whitelist.resolve,
        h .whitelistSourceRange rfl]
  | redirect =>
      rw [Feature.resolve, Feature.resolve, Redirect.resolve, Redirect.resolve,
        h .targetPath rfl, hbool .sslRedirect rfl, hbool .forceSslRedirect rfl, h .appRoot rfl]
  | portInRedirect =>
      rw [Feature.resolve, Feature.resolve, resolvePortInRedirect, resolvePortInRedirect,
        hbool .usePortInRedirects rfl]
  | serverTls =>
      -- The only feature that looks at the namespace: there it expects the secret to be.
      rw [Feature.resolve, Feature.resolve, ServerTls.resolve, ServerTls.resolve,
        hbool .secureBackends rfl, h .secureVerifyCaSecret rfl, hnamespace]
  | serviceAddress =>
      rw [Feature.resolve, Feature.resolve, resolveServiceAddress, resolveServiceAddress,
        hbool .serviceAddress rfl]
  | sessionAffinity =>
      simp only [Feature.resolve, Affinity.resolve, Cookie.resolve, nonemptyText, textIf,
        h .affinity rfl, h .sessionCookieName rfl, h .sessionCookieHash rfl,
        h .sessionCookieStrategy rfl, hbool .sessionCookieDynamic rfl]
  | sslPassthrough =>
      rw [Feature.resolve, Feature.resolve, Passthrough.resolve, Passthrough.resolve,
        hbool .sslPassthrough rfl, hint .sslPassthroughHttpPort rfl]
  | healthCheck =>
      simp only [Feature.resolve, HealthCheck.resolve, nonemptyText, h .healthCheckUri rfl,
        h .healthCheckAddr rfl, h .healthCheckPort rfl, h .healthCheckInterval rfl,
        h .healthCheckRiseCount rfl, h .healthCheckFallCount rfl]

end Texts

/-! ### Readers -/

section Readers

variable (ing : Ingress)

/-- What a reader makes of an annotation, if it makes anything of it. -/
theorem toOption_readOf {α : Type} (read? : String → Option α) (name : String) :
    (readOf read? ing name).toOption = (ing.metadata.annotationText? name).bind read? := by
  rw [readOf, textOf]
  cases ing.metadata.annotationText? name with
  | none => rfl
  | some text => cases hread : read? text <;> simp [hread, Except.toOption]

theorem orElse_eq {α : Type} (value : Except Error α) (default : α) :
    orElse value default = value.toOption.getD default := by
  cases value <;> rfl

/-- The text that stands in place of an empty or missing one is the default. -/
theorem nonemptyText_eq (name default : String) :
    nonemptyText ing name default
      = ((ing.metadata.annotationText? name).filter (· ≠ "")).getD default := by
  rw [nonemptyText, textOf]
  cases ing.metadata.annotationText? name with
  | none => rfl
  | some text => by_cases hempty : text = "" <;> simp [hempty, Option.filter]

/-- The default also stands in place of a text that fails its check. -/
theorem textIf_eq (isValid : String → Bool) (key : Key) (default : String) :
    textIf isValid ing key default
      = ((ing.metadata.annotationText? key.name).filter isValid).getD default := by
  rw [textIf, textOf]
  cases ing.metadata.annotationText? key.name with
  | none => rfl
  | some text => cases hvalid : isValid text <;> simp [hvalid, Option.filter]

/-- In a header the default stands in place of both. -/
theorem Cors.value_checked (key : Key) (isValid : String → Bool) (default : String) :
    (Cors.checked ing key isValid default).value
      = (((ing.metadata.annotationText? key.name).filter isValid).filter
          (· ≠ "")).getD default := by
  rw [Cors.checked, textOf]
  cases ing.metadata.annotationText? key.name with
  | none => rfl
  | some text =>
      by_cases hempty : text = ""
      · subst hempty
        cases hvalid : isValid "" <;> simp [hvalid, Option.filter]
      · cases hvalid : isValid text <;> simp [hempty, hvalid, Option.filter]

end Readers

/-! ### Values of features that report what they leave out -/

/-- The older key of the switch is looked at where nothing can be read of the newer one. -/
theorem Cors.isEnabled_eq (ing : Ingress) :
    isEnabled ing = orElse (boolOf ing Key.corsEnable.name)
      (orElse (boolOf ing Key.enableCors.name) false) := by
  rw [isEnabled]
  cases boolOf ing Key.corsEnable.name <;> rfl

/-- A policy that is switched off carries nothing. -/
theorem Cors.value_resolve (ing : Ingress) :
    (Cors.resolve ing).value = if isEnabled ing then
      { enabled := true
        allowOrigin := (checked ing .corsAllowOrigin isOrigin defaultOrigin).value
        allowMethods := (checked ing .corsAllowMethods isMethodList defaultMethods).value
        allowHeaders := (checked ing .corsAllowHeaders isHeaderList defaultHeaders).value
        allowCredentials := orElse (boolOf ing Key.corsAllowCredentials.name) true
        exposeHeaders := (checked ing .corsExposeHeaders isHeaderList "").value
        maxAge := orElse (intOf ing Key.corsMaxAge.name) defaultMaxAge }
    else {} := by
  rw [Cors.resolve]
  split <;> rfl

/-- A text that is no size is taken for no limit. -/
theorem Proxy.value_checkedBodySize (size : String) :
    (checkedBodySize size).value = if isBodySize size then size else "" := by
  rw [checkedBodySize]
  split
  · rfl
  · split <;> rfl

/-- Whether redirects keep the listening port is inherited where no truth value can be read. -/
theorem value_resolvePortInRedirect (backend : DefaultBackend) (ing : Ingress) :
    (resolvePortInRedirect backend ing).value
      = orElse (boolOf ing Key.usePortInRedirects.name) backend.usePortInRedirects := by
  rw [resolvePortInRedirect]
  cases boolOf ing Key.usePortInRedirects.name with
  | ok value => rfl
  | error e => cases e <;> rfl

/-- A service address is missing where no truth value can be read. -/
theorem value_resolveServiceAddress (ing : Ingress) :
    (resolveServiceAddress ing).value
      = (boolOf ing Key.serviceAddress.name).mapError fun _ => .missing := by
  rw [resolveServiceAddress]
  cases boolOf ing Key.serviceAddress.name with
  | ok value => rfl
  | error e => cases e <;> rfl

/-- A pass-through is missing where no truth value can be read. -/
theorem Passthrough.value_resolve (ing : Ingress) :
    (Passthrough.resolve ing).value
      = ((boolOf ing Key.sslPassthrough.name).mapError fun _ => .missing).map fun enabled =>
        { enabled, httpPort := orElse (intOf ing Key.sslPassthroughHttpPort.name) 0 } := by
  rw [Passthrough.resolve]
  cases boolOf ing Key.sslPassthrough.name with
  | ok value => rfl
  | error e => cases e <;> rfl

end Annotations

end IngressController
