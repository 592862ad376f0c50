import IngressController.Proofs.Annotations.Ownership

/-!
# `IngressController.Proofs.Annotations.Fallback`: annotations that count as missing

A truth value, a number, a list that goes into a header, a size limit and two choices for a
session cookie are checked on their own: `Key.accepts` is that check. A text that fails it is put
aside, and each feature goes on in a way of its own, by a default, by the next key, by the default
backend or by leaving the feature out. That all of these are the way of a missing annotation is
`Feature.value_resolve_of_accepted`: a feature resolves nothing but the texts that pass their
checks.

The size limit of request bodies is the exception. It is checked behind the fallback to the
default backend, and a text that is no size is taken for no limit
(`removesLimit_of_unreadableSize`), while a missing one inherits the limit of the default backend.
For all the rest of the configuration it counts as missing as well.

* `value_extract_of_invalid`: what an extraction makes of an annotation that fails its check.
-/

set_option autoImplicit false

namespace IngressController.Annotations

open Object

/-! ### Texts that pass their checks -/

namespace Key

/-- The check that the text of an annotation has to pass on its own. Texts that are handed on as
they are pass it, and so does a list of clients, whose entries are read one by one. -/
def accepts : Key → String → Bool
  | corsEnable | enableCors | corsAllowCredentials | sslRedirect | forceSslRedirect
  | usePortInRedirects | secureBackends | serviceAddress | sessionCookieDynamic | sslPassthrough =>
    fun text => (parseBool? text).isSome
  | corsMaxAge | proxyConnectTimeout | proxySendTimeout | proxyReadTimeout
  | sslPassthroughHttpPort => fun text => (Text.readSigned? 32 text).isSome
  | corsAllowOrigin => isOrigin
  | corsAllowMethods => isMethodList
  | corsAllowHeaders | corsExposeHeaders => isHeaderList
  | proxyBodySize => fun text => isBodySize text || text == Proxy.unlimited
  | sessionCookieHash => isCookieHash
  | sessionCookieStrategy => isCookieStrategy
  | _ => fun _ => true

/-- The text of an annotation if it is there and passes its check. -/
def accepted? (key : Key) (ing : Ingress) : Option String :=
  (ing.metadata.annotationText? key.name).filter key.accepts

/-- An annotation fails its check in one Ingress and is missing in another one, which agrees with
the first on everything else. -/
structure Invalid (key : Key) (ing without : Ingress) : Prop where
  agree : ing.AgreeBut key.name without
  rejected : ∃ text, ing.metadata.annotationText? key.name = some text ∧ key.accepts text = false
  missing : without.metadata.annotationText? key.name = none

/-- An annotation that fails its check has no more of an accepted text than a missing one. -/
theorem Invalid.accepted?_eq {key : Key} {ing without : Ingress} (h : key.Invalid ing without)
    (other : Key) : other.accepted? without = other.accepted? ing := by
  rw [accepted?, accepted?]
  by_cases hname : other.name = key.name
  · obtain rfl := name_injective hname
    obtain ⟨text, htext, hfails⟩ := h.rejected
    rw [htext, h.missing, Option.filter_some_neg (by simpa using hfails), Option.filter_none]
  · rw [h.agree.others _ hname]

end Key

/-! ### Readers -/

section Readers

variable {ing ing' : Ingress} {key : Key}

/-- An annotation without a check is read as it is. -/
theorem textOf_of_accepted (h : key.accepted? ing' = key.accepted? ing)
    (hkey : ∀ text, key.accepts text = true) : textOf ing' key.name = textOf ing key.name := by
  have hall : ∀ ing : Ingress, key.accepted? ing = ing.metadata.annotationText? key.name := by
    intro ing
    rw [Key.accepted?]
    cases ing.metadata.annotationText? key.name with
    | none => rfl
    | some text => exact Option.filter_some_pos (hkey text)
  rw [hall, hall] at h
  exact textOf_congr h

/-- A reader that makes something of exactly the texts that pass the check reads the same. -/
theorem toOption_readOf_of_accepted {α : Type} {read? : String → Option α}
    (h : key.accepted? ing' = key.accepted? ing)
    (hkey : ∀ text, key.accepts text = (read? text).isSome) :
    (readOf read? ing' key.name).toOption = (readOf read? ing key.name).toOption := by
  have hbind : ∀ ing : Ingress,
      (ing.metadata.annotationText? key.name).bind read? = (key.accepted? ing).bind read? := by
    intro ing
    rw [Key.accepted?]
    cases ing.metadata.annotationText? key.name with
    | none => rfl
    | some text => cases hread : read? text <;> simp [Option.filter, hkey, hread]
  rw [toOption_readOf, toOption_readOf, hbind, hbind, h]

/-- A text that is replaced where it fails its check is the same. -/
theorem textIf_of_accepted (h : key.accepted? ing' = key.accepted? ing) (default : String) :
    textIf key.accepts ing' key default = textIf key.accepts ing key default := by
  rw [textIf_eq, textIf_eq]
  exact congrArg (fun text? => text?.getD default) h

/-- So is a text that goes into a header. -/
theorem Cors.value_checked_of_accepted (h : key.accepted? ing' = key.accepted? ing)
    (default : String) :
    (checked ing' key key.accepts default).value = (checked ing key key.accepts default).value := by
  rw [value_checked, value_checked]
  exact congrArg (fun text? => (text?.filter (· ≠ "")).getD default) h

/-- Values that differ at most in why there is none have the same substitute. -/
theorem orElse_congr {α : Type} {value value' : Except Error α}
    (h : value'.toOption = value.toOption) (default : α) :
    orElse value' default = orElse value default := by
  rw [orElse_eq, orElse_eq, h]

/-- They are the same once every reason counts as a missing annotation. -/
theorem mapError_congr {α : Type} {value value' : Except Error α}
    (h : value'.toOption = value.toOption) :
    (value'.mapError fun _ => Error.missing) = value.mapError fun _ => Error.missing := by
  cases value <;> cases value' <;> simp_all [Except.toOption, Except.mapError]

/-- A number is the same, or has the same substitute. -/
theorem orElse_intOf_of_accepted (h : key.accepted? ing' = key.accepted? ing)
    (hkey : ∀ text, key.accepts text = (Text.readSigned? 32 text).isSome) (default : Int) :
    orElse (intOf ing' key.name) default = orElse (intOf ing key.name) default :=
  orElse_congr (toOption_readOf_of_accepted h hkey) default

/-- So is a text without a check that is replaced where it is empty. -/
theorem nonemptyText_of_accepted (h : key.accepted? ing' = key.accepted? ing)
    (hkey : ∀ text, key.accepts text = true) (default : String) :
    nonemptyText ing' key.name default = nonemptyText ing key.name default := by
  rw [nonemptyText, nonemptyText, textOf_of_accepted h hkey]

end Readers

/-! ### Features -/

section Features

variable {ing ing' : Ingress}

/-- The settings of the proxy with another limit on the size of request bodies. -/
def Proxy.withBodySize (p : Proxy) (size : String) : Proxy :=
  { p with bodySize := size }

/-- The settings of the proxy but for that limit are resolved from texts that pass their checks. -/
theorem Proxy.value_resolve_of_accepted (backend : DefaultBackend)
    (h : ∀ key : Key, key.owner = .proxy → key ≠ .proxyBodySize →
      key.accepted? ing' = key.accepted? ing) (size : String) :
    (Proxy.resolve backend ing').value.withBodySize size
      = (Proxy.resolve backend ing).value.withBodySize size := by
  simp only [Proxy.resolve, Proxy.withBodySize, Reported.value_bind, Reported.value_pure,
    Proxy.mk.injEq, true_and]
  -- The three timeouts are numbers, the rest are texts; none of them is the size limit.
  exact ⟨orElse_intOf_of_accepted (h .proxyConnectTimeout rfl (by decide)) (fun _ => rfl) _,
    orElse_intOf_of_accepted (h .proxySendTimeout rfl (by decide)) (fun _ => rfl) _,
    orElse_intOf_of_accepted (h .proxyReadTimeout rfl (by decide)) (fun _ => rfl) _,
    nonemptyText_of_accepted (h .proxyBufferSize rfl (by decide)) (fun _ => rfl) _,
    nonemptyText_of_accepted (h .proxyCookieDomain rfl (by decide)) (fun _ => rfl) _,
    nonemptyText_of_accepted (h .proxyCookiePath rfl (by decide)) (fun _ => rfl) _,
    nonemptyText_of_accepted (h .proxyNextServer rfl (by decide)) (fun _ => rfl) _,
    nonemptyText_of_accepted (h .proxyPassParams rfl (by decide)) (fun _ => rfl) _,
    nonemptyText_of_accepted (h .proxyRequestBuffering rfl (by decide)) (fun _ => rfl) _⟩

/-- A feature but for the settings of the proxy resolves nothing but the texts of its annotations
that pass their checks. -/
theorem Feature.value_resolve_of_accepted (s : Surroundings) {f : Feature} (hf : f ≠ .proxy)
    (hnamespace : ing'.metadata.namespaceText = ing.metadata.namespaceText)
    (h : ∀ key : Key, key.owner = f → key.accepted? ing' = key.accepted? ing) :
    (f.resolve s ing').value = (f.resolve s ing).value := by
  have hbool : ∀ key : Key, key.owner = f → (∀ text, key.accepts text = (parseBool? text).isSome) →
      (boolOf ing' key.name).toOption = (boolOf ing key.name).toOption :=
    fun key hkey haccepts => toOption_readOf_of_accepted (h key hkey) haccepts
  have hint : ∀ (key : Key) (default : Int), key.owner = f →
      (∀ text, key.accepts text = (Text.readSigned? 32 text).isSome) →
      orElse (intOf ing' key.name) default = orElse (intOf ing key.name) default :=
    fun key default hkey haccepts => orElse_intOf_of_accepted (h key hkey) haccepts default
  have htext : ∀ key : Key, key.owner = f → (∀ text, key.accepts text = true) →
      textOf ing' key.name = textOf ing key.name :=
    fun key hkey haccepts => textOf_of_accepted (h key hkey) haccepts
  -- A feature looks at its annotations through these readers only.
  cases f with
  | proxy => exact absurd rfl hf
  | cors =>
      have henabled : Cors.isEnabled ing' = Cors.isEnabled ing := by
        rw [Cors.isEnabled_eq, Cors.isEnabled_eq, orElse_congr (hbool .corsEnable rfl fun _ => rfl),
          orElse_congr (hbool .enableCors rfl fun _ => rfl)]
      have horigin := Cors.value_checked_of_accepted (h .corsAllowOrigin rfl) Cors.defaultOrigin
      have hmethods := Cors.value_checked_of_accepted (h .corsAllowMethods rfl) Cors.defaultMethods
      have hheaders := Cors.value_checked_of_accepted (h .corsAllowHeaders rfl) Cors.defaultHeaders
      have hexpose := Cors.value_checked_of_accepted (h .corsExposeHeaders rfl) ""
      -- The policy names the checks themselves, not the keys that they belong to.
      simp only [Key.accepts] at horigin hmethods hheaders hexpose
      simp only [Feature.resolve, Reported.value_map, Cors.value_resolve, henabled, horigin,
        hmethods, hheaders, hexpose, hint .corsMaxAge _ rfl fun _ => rfl,
        orElse_congr (hbool .corsAllowCredentials rfl fun _ => rfl)]
  | whitelist =>
      rw [Feature.resolve, Feature.resolve, Whitelist.resolve, Whitelist.resolve,
        htext .whitelistSourceRange rfl fun _ => rfl]
  | redirect =>
      simp only [Feature.resolve, Redirect.resolve, htext .targetPath rfl fun _ => rfl,
        htext .appRoot rfl fun _ => rfl, orElse_congr (hbool .sslRedirect rfl fun _ => rfl),
        orElse_congr (hbool .forceSslRedirect rfl fun _ => rfl)]
  | portInRedirect =>
      simp only [Feature.resolve, Reported.value_map, value_resolvePortInRedirect,
        orElse_congr (hbool .usePortInRedirects rfl fun _ => rfl)]
  | serverTls =>
      rw [Feature.resolve, Feature.resolve, ServerTls.resolve, ServerTls.resolve, hnamespace,
        orElse_congr (hbool .secureBackends rfl fun _ => rfl),
        htext .secureVerifyCaSecret rfl fun _ => rfl]
  | serviceAddress =>
      rw [Feature.resolve, Feature.resolve, value_resolveServiceAddress,
        value_resolveServiceAddress, mapError_congr (hbool .serviceAddress rfl fun _ => rfl)]
  | sessionAffinity =>
      have hhash := textIf_of_accepted (h .sessionCookieHash rfl) "md5"
      have hstrategy := textIf_of_accepted (h .sessionCookieStrategy rfl) "insert"
      simp only [Key.accepts] at hhash hstrategy
      simp only [Feature.resolve, Affinity.resolve, Cookie.resolve, nonemptyText, hhash, hstrategy,
        htext .affinity rfl fun _ => rfl, htext .sessionCookieName rfl fun _ => rfl,
        orElse_congr (hbool .sessionCookieDynamic rfl fun _ => rfl)]
  | sslPassthrough =>
      rw [Feature.resolve, Feature.resolve, Passthrough.value_resolve, Passthrough.value_resolve,
        mapError_congr (hbool .sslPassthrough rfl fun _ => rfl),
        hint .sslPassthroughHttpPort _ rfl fun _ => rfl]
  | healthCheck =>
      simp only [Feature.resolve, HealthCheck.resolve, nonemptyText,
        htext .healthCheckUri rfl fun _ => rfl, htext .healthCheckAddr rfl fun _ => rfl,
        htext .healthCheckPort rfl fun _ => rfl, htext .healthCheckInterval rfl fun _ => rfl,
        htext .healthCheckRiseCount rfl fun _ => rfl, htext .healthCheckFallCount rfl fun _ => rfl]

end Features

/-! ### Annotations that fail their checks -/

/-- A text that is neither a size nor the word for no limit is taken for no limit. -/
theorem Proxy.bodySize_of_rejected (backend : DefaultBackend) {ing : Ingress} {text : String}
    (htext : ing.metadata.annotationText? Key.proxyBodySize.name = some text)
    (h : Key.proxyBodySize.accepts text = false) :
    (Proxy.resolve backend ing).value.bodySize = "" := by
  have hinvalid : isBodySize text = false := (Bool.or_eq_false_iff.mp h).1
  have hnonempty : text ≠ "" := by
    rintro rfl
    exact absurd hinvalid (by decide)
  have hsize : nonemptyText ing Key.proxyBodySize.name backend.proxyBodySize = text := by
    rw [nonemptyText_eq, htext, Option.filter_some_pos (by simpa using hnonempty), Option.getD_some]
  calc (Proxy.resolve backend ing).value.bodySize
      = (checkedBodySize (nonemptyText ing Key.proxyBodySize.name backend.proxyBodySize)).value :=
        rfl
    _ = "" := by rw [hsize, value_checkedBodySize, hinvalid]; rfl

namespace Key.Invalid

variable {key : Key} {ing without : Ingress}

/-- A feature but for the settings of the proxy takes a failing annotation for a missing one. -/
theorem value_resolve (h : key.Invalid ing without) (s : Surroundings) {f : Feature}
    (hf : f ≠ .proxy) : (f.resolve s ing).value = (f.resolve s without).value :=
  (Feature.value_resolve_of_accepted s hf h.agree.inNamespace fun other _ =>
    h.accepted?_eq other).symm

/-- So do the settings of the proxy but for the size limit. -/
theorem withBodySize_eq (h : key.Invalid ing without) (backend : DefaultBackend) (size : String) :
    (Proxy.resolve backend ing).value.withBodySize size
      = (Proxy.resolve backend without).value.withBodySize size :=
  (Proxy.value_resolve_of_accepted backend (fun other _ _ => h.accepted?_eq other) size).symm

/-- So do all of them if it is not the size limit that fails. -/
theorem proxy_eq (h : key.Invalid ing without) (hkey : key ≠ .proxyBodySize)
    (backend : DefaultBackend) :
    (Proxy.resolve backend ing).value = (Proxy.resolve backend without).value := by
  -- The size limit does not follow from the other settings: its own text has to be the same.
  have hname : Key.proxyBodySize.name ≠ key.name :=
    fun hname => hkey (Key.name_injective hname).symm
  have hsize : (Proxy.resolve backend ing).value.bodySize
      = (Proxy.resolve backend without).value.bodySize := by
    simp only [Proxy.resolve, Reported.value_bind, Reported.value_pure, nonemptyText,
      textOf_congr (h.agree.others _ hname)]
  calc (Proxy.resolve backend ing).value
      = (Proxy.resolve backend without).value.withBodySize
          (Proxy.resolve backend ing).value.bodySize := h.withBodySize_eq backend _
    _ = (Proxy.resolve backend without).value := by rw [hsize]; rfl

/-- A size limit that fails is taken away. -/
theorem proxy_eq_withBodySize (h : Key.proxyBodySize.Invalid ing without)
    (backend : DefaultBackend) :
    (Proxy.resolve backend ing).value = (Proxy.resolve backend without).value.withBodySize "" := by
  obtain ⟨text, htext, hrejected⟩ := h.rejected
  rw [← h.withBodySize_eq, ← Proxy.bodySize_of_rejected backend htext hrejected]
  rfl

end Key.Invalid

/-! ### Extractions -/

/-- A configuration without a limit on the size of request bodies. -/
def Resolved.withoutLimit (r : Resolved) : Resolved :=
  { r with proxy := r.proxy.withBodySize "" }

/-- If the outcomes differ in nothing but that the proxy has no limit, so do the extractions. -/
theorem value_extract_withoutLimit {s : Surroundings} {ing ing' : Ingress}
    (hproxy : (Proxy.resolve s.backend ing).value
      = (Proxy.resolve s.backend ing').value.withBodySize "")
    (hothers : ∀ f : Feature, f ≠ .proxy → (f.resolve s ing).value = (f.resolve s ing').value) :
    (extract s ing).value = (extract s ing').value.withoutLimit := by
  refine Resolved.ext_get (fun f => ?_) ?_
  · -- Taking the limit away touches one configuration, and this one is resolved without it.
    by_cases hf : f = .proxy
    · subst hf
      calc (extract s ing).value.get .proxy
          = (Proxy.resolve s.backend ing).value := get_extract s ing .proxy
        _ = (Proxy.resolve s.backend ing').value.withBodySize "" := hproxy
        _ = (extract s ing').value.withoutLimit.get .proxy :=
          (congrArg (Proxy.withBodySize · "") (get_extract s ing' .proxy)).symm
    · have hget : (extract s ing').value.withoutLimit.get f = (extract s ing').value.get f := by
        cases f <;> first | rfl | exact absurd rfl hf
      rw [hget, get_extract, get_extract, hothers f hf]
  · -- The settings of the proxy are resolved without an error both times.
    have hrecorded : ∀ f : Feature,
        recorded? (f.resolve s ing).value = recorded? (f.resolve s ing').value := by
      intro f
      by_cases hf : f = .proxy
      · subst hf
        rfl
      · rw [hothers f hf]
    show (extract s ing).value.errors = (extract s ing').value.errors
    rw [errors_extract, errors_extract]
    simp only [hrecorded]

/-- An annotation that fails its check is extracted like a missing one. Only the limit on the size
of request bodies is taken away by such an annotation, while a missing one leaves it to the
default backend. -/
theorem value_extract_of_invalid (s : Surroundings) {key : Key} {ing without : Ingress}
    (h : key.Invalid ing without) :
    (key ≠ .proxyBodySize → (extract s ing).value = (extract s without).value) ∧
      (key = .proxyBodySize →
        (extract s ing).value = (extract s without).value.withoutLimit) := by
  constructor
  · intro hkey
    refine value_extract_congr fun f => ?_
    by_cases hf : f = .proxy
    · subst hf
      exact congrArg Except.ok (h.proxy_eq hkey s.backend)
    · exact h.value_resolve s hf
  · rintro rfl
    exact value_extract_withoutLimit (h.proxy_eq_withBodySize s.backend) fun f hf =>
      h.value_resolve s hf

/-- An Ingress that shares its resources under a policy with a list of methods that is none. -/
def misspelledMethods : Ingress :=
  Key.ingressWith [(.corsEnable, "true"), (.corsAllowMethods, "GET; POST"),
    (.corsAllowOrigin, "http://example.com")]

/-- It has the policy of an Ingress that says nothing about methods. -/
theorem value_extract_of_misspelledMethods :
    Key.corsAllowMethods.Invalid misspelledMethods
        (misspelledMethods.unannotate Key.corsAllowMethods.name) ∧
      (extract Surroundings.bare misspelledMethods).value
        = (extract Surroundings.bare
            (misspelledMethods.unannotate Key.corsAllowMethods.name)).value := by
  have hinvalid : Key.corsAllowMethods.Invalid misspelledMethods
      (misspelledMethods.unannotate Key.corsAllowMethods.name) :=
    ⟨misspelledMethods.agreeBut_unannotate _, ⟨"GET; POST", by decide +kernel, by decide +kernel⟩,
      by decide +kernel⟩
  exact ⟨hinvalid, (value_extract_of_invalid _ hinvalid).1 (by decide)⟩

/-- An Ingress with a size limit in a unit that is not known. -/
def unreadableSize : Ingress :=
  Key.ingressWith [(.proxyBodySize, "10M")]

/-- It has no limit, though an Ingress without the annotation has the one of the default backend. -/
theorem removesLimit_of_unreadableSize :
    ¬ ∀ (s : Surroundings) (key : Key) (ing without : Ingress), key.Invalid ing without →
      (extract s ing).value = (extract s without).value := by
  intro h
  have hinvalid : Key.proxyBodySize.Invalid unreadableSize
      (unreadableSize.unannotate Key.proxyBodySize.name) :=
    ⟨unreadableSize.agreeBut_unannotate _, ⟨"10M", by decide +kernel, by decide +kernel⟩,
      by decide +kernel⟩
  have hsize := congrArg (·.proxy.bodySize) (h Surroundings.bare _ _ _ hinvalid)
  have hwith : (extract Surroundings.bare unreadableSize).value.proxy.bodySize = "" := by
    decide +kernel
  have hwithout : (extract Surroundings.bare
      (unreadableSize.unannotate Key.proxyBodySize.name)).value.proxy.bodySize = "1m" := by
    decide +kernel
  exact absurd ((hwith.symm.trans hsize).trans hwithout) (by decide)

end IngressController.Annotations
