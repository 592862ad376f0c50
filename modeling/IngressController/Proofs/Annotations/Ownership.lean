import IngressController.IngressClass
import IngressController.Proofs.Annotations.Extraction
import Mathlib.Data.List.Nodup

/-!
# `IngressController.Proofs.Annotations.Ownership`: annotations and the features they belong to

An annotation belongs to the feature that has its key. The table of owners in
`IngressController.Annotations.Key` says which one that is, and it is not a matter of convention: a
feature has a key exactly if the text of the annotation makes a difference to what the feature
resolves (`Feature.Reads`), for some Ingress and some surroundings. No two keys share a name, and no
feature has the annotation that names the class of an Ingress.

Whoever changes one annotation therefore changes nothing but the configuration of one feature and
its error. This is not clear from the outcomes alone, since the features write to one record and an
error may set the list of clients; `IngressController.Proofs.Annotations.Extraction` takes care of
that.

* `Feature.owns_iff_reads`: the table of owners says which feature reads which annotation.
* `keptApart_of_agreeBut`: what one annotation cannot change.
-/

set_option autoImplicit false

namespace IngressController.Annotations

open Object

/-! ### Names of keys -/

namespace Key

/-- Every annotation key. -/
def all : List Key :=
  [corsEnable, enableCors, corsAllowOrigin, corsAllowMethods, corsAllowHeaders,
    corsAllowCredentials, corsExposeHeaders, corsMaxAge, proxyBodySize, proxyConnectTimeout,
    proxySendTimeout, proxyReadTimeout, proxyBufferSize, proxyCookiePath, proxyCookieDomain,
    proxyNextServer, proxyPassParams, proxyRequestBuffering, whitelistSourceRange, targetPath,
    sslRedirect, forceSslRedirect, appRoot, usePortInRedirects, secureBackends,
    secureVerifyCaSecret, serviceAddress, affinity, sessionCookieName, sessionCookieHash,
    sessionCookieStrategy, sessionCookieDynamic, sslPassthrough, sslPassthroughHttpPort,
    healthCheckUri, healthCheckAddr, healthCheckPort, healthCheckInterval, healthCheckRiseCount,
    healthCheckFallCount]

theorem mem_all (key : Key) : key ∈ all := by
  cases key <;> decide

/-- No two keys share a name. -/
theorem name_injective : Function.Injective name := by
  have hnodup : (all.map localName).Nodup := by decide +kernel
  intro key key' h
  exact List.inj_on_of_nodup_map hnodup key.mem_all key'.mem_all
    ((String.append_right_inj _).mp h)

/-- No key has the name of the annotation with the class. -/
theorem name_ne_annotationName (key : Key) : key.name ≠ IngressClass.annotationName := by
  -- The names of keys begin with one domain, which the name of the class does not.
  have hkey : "ingress.kubernetes.io/".toList <+: key.name.toList :=
    ⟨key.localName.toList, (String.toList_append ..).symm⟩
  have hclass : ¬ "ingress.kubernetes.io/".toList <+: IngressClass.annotationName.toList := by
    decide +kernel
  intro h
  rw [h] at hkey
  exact hclass hkey

end Key

/-! ### Features that own and features that read -/

namespace Feature

/-- A feature has the key of an annotation. -/
def Owns (f : Feature) (name : String) : Prop :=
  ∃ key : Key, key.owner = f ∧ key.name = name

/-- The text of an annotation makes a difference to a feature: it is resolved differently for two
Ingresses that agree on everything else. -/
def Reads (f : Feature) (name : String) : Prop :=
  ∃ (s : Surroundings) (ing ing' : Ingress), ing.AgreeBut name ing' ∧
    (f.resolve s ing').value ≠ (f.resolve s ing).value

/-- An annotation makes no difference to a feature that it does not belong to. -/
theorem resolve_of_not_owns (s : Surroundings) {f : Feature} {name : String} {ing ing' : Ingress}
    (h : ing.AgreeBut name ing') (hf : ¬ f.Owns name) : f.resolve s ing' = f.resolve s ing := by
  have hname : ∀ key : Key, key.owner = f → key.name ≠ name :=
    fun key hkey hname => hf ⟨key, hkey, hname⟩
  exact f.resolve_of_texts s h.inNamespace fun key hkey =>
    textOf_congr (h.others _ (hname key hkey))

instance : (f : Feature) → DecidableEq f.Config
  | .cors => inferInstanceAs (DecidableEq Cors)
  | .proxy => inferInstanceAs (DecidableEq Proxy)
  | .whitelist => inferInstanceAs (DecidableEq SourceRange)
  | .redirect => inferInstanceAs (DecidableEq Redirect)
  | .portInRedirect => inferInstanceAs (DecidableEq Bool)
  | .serverTls => inferInstanceAs (DecidableEq ServerTls)
  | .serviceAddress => inferInstanceAs (DecidableEq Bool)
  | .sessionAffinity => inferInstanceAs (DecidableEq Affinity)
  | .sslPassthrough => inferInstanceAs (DecidableEq Passthrough)
  | .healthCheck => inferInstanceAs (DecidableEq HealthCheck)

end Feature

namespace Key

/-- The annotations that an Ingress has to have for a key to be looked at. -/
def setting : Key → List (Key × String)
  | corsAllowOrigin | corsAllowMethods | corsAllowHeaders | corsAllowCredentials
  | corsExposeHeaders | corsMaxAge => [(corsEnable, "true")]
  | sessionCookieName | sessionCookieHash | sessionCookieStrategy | sessionCookieDynamic =>
    [(affinity, "cookie")]
  | sslPassthroughHttpPort => [(sslPassthrough, "true")]
  | _ => []

/-- A text of a key that is not what an Ingress has without it. -/
def tellingText : Key → String
  | corsEnable | enableCors | forceSslRedirect | usePortInRedirects | secureBackends
  | serviceAddress | sslPassthrough => "true"
  | corsAllowCredentials | sslRedirect | sessionCookieDynamic => "false"
  | corsMaxAge | proxyBodySize | proxyConnectTimeout | proxySendTimeout | proxyReadTimeout
  | sslPassthroughHttpPort => "7"
  | corsAllowOrigin => "http://example.com"
  | whitelistSourceRange => "1.2.3.4"
  | affinity => "cookie"
  | sessionCookieHash => "sha1"
  | sessionCookieStrategy => "prefix"
  | _ => "X"

/-- Every key makes a difference to its owner. -/
theorem reads_owner (key : Key) : key.owner.Reads key.name := by
  refine ⟨Surroundings.bare, ingressWith key.setting,
    (ingressWith key.setting).annotate key.name key.tellingText,
    Ingress.agreeBut_annotate _ _ _, fun h => ?_⟩
  -- The configurations differ, or there is one only if the annotation is set. So the errors of the
  -- two outcomes need not be compared.
  have hdiffers : (key.owner.resolve Surroundings.bare
        ((ingressWith key.setting).annotate key.name key.tellingText)).value.toOption
      ≠ (key.owner.resolve Surroundings.bare (ingressWith key.setting)).value.toOption := by
    cases key <;> decide +kernel
  exact hdiffers (congrArg Except.toOption h)

end Key

namespace Feature

/-- A feature has the keys of exactly those annotations that make a difference to it. -/
theorem owns_iff_reads (f : Feature) (name : String) : f.Owns name ↔ f.Reads name := by
  constructor
  · rintro ⟨key, rfl, rfl⟩
    exact key.reads_owner
  · rintro ⟨s, ing, ing', h, hdiffers⟩
    by_contra hf
    exact hdiffers (congrArg Reported.value (resolve_of_not_owns s h hf))

/-- The annotation of a key makes no difference to a feature that is not the owner of the key. -/
theorem resolve_of_owner_ne (s : Surroundings) {f : Feature} {key : Key} {ing ing' : Ingress}
    (h : ing.AgreeBut key.name ing') (hf : key.owner ≠ f) : f.resolve s ing' = f.resolve s ing := by
  refine resolve_of_not_owns s h ?_
  rintro ⟨other, howner, hname⟩
  exact hf (Key.name_injective hname ▸ howner)

/-- Every key belongs to exactly one feature. -/
theorem existsUnique_owns (key : Key) : ∃! f : Feature, f.Owns key.name := by
  refine ⟨key.owner, ⟨key, rfl, rfl⟩, ?_⟩
  rintro f ⟨key', rfl, hname⟩
  rw [Key.name_injective hname]

/-- The annotation with the class belongs to none. -/
theorem not_owns_annotationName (f : Feature) : ¬ f.Owns IngressClass.annotationName :=
  fun ⟨key, _, hname⟩ => key.name_ne_annotationName hname

end Feature

/-! ### What one annotation cannot change -/

/-- What an extraction keeps when one annotation changes. -/
structure KeptApart (s : Surroundings) (name : String) (ing ing' : Ingress) : Prop where
  /-- A feature that the annotation does not belong to has the configuration and the error that it
  had. -/
  kept : ∀ f : Feature, ¬ f.Owns name →
    (extract s ing').value.get f = (extract s ing).value.get f ∧
      (extract s ing').value.error? f = (extract s ing).value.error? f
  /-- If the annotation belongs to no feature, nothing changes, nor is anything else reported. -/
  unowned : (∀ f : Feature, ¬ f.Owns name) → extract s ing' = extract s ing

/-- Setting, changing or removing one annotation changes nothing but the configuration and the
error of the feature that it belongs to. This is the feature that the annotation makes a
difference to, and for every key there is exactly one; for the annotation with the class of an
Ingress there is none. -/
theorem keptApart_of_agreeBut (s : Surroundings) {name : String} {ing ing' : Ingress}
    (h : ing.AgreeBut name ing') :
    KeptApart s name ing ing' ∧
      (∀ (f : Feature) (other : String), f.Owns other ↔ f.Reads other) ∧
      (∀ key : Key, ∃! f : Feature, f.Owns key.name) ∧
      ∀ f : Feature, ¬ f.Owns IngressClass.annotationName := by
  refine ⟨⟨fun f hf => ?_, fun hnone => ?_⟩, Feature.owns_iff_reads, Feature.existsUnique_owns,
    Feature.not_owns_annotationName⟩
  · have hresolve := Feature.resolve_of_not_owns s h hf
    constructor
    · rw [get_extract, get_extract, hresolve]
    · rw [error?_extract, error?_extract, hresolve]
  · -- Every turn of the extraction is the same, whatever has been resolved before.
    have hstep : Resolved.addFeature s ing' = Resolved.addFeature s ing := by
      funext r f
      rw [Resolved.addFeature, Resolved.addFeature, Feature.resolve_of_not_owns s h (hnone f)]
    rw [extract, extract, hstep]

/-- An Ingress that admits none of its clients, since the only entry of its list is unreadable. -/
def closedIngress : Ingress :=
  Key.ingressWith [(.corsEnable, "true"), (.whitelistSourceRange, "everyone")]

/-- The same Ingress with its list corrected. -/
def openedIngress : Ingress :=
  closedIngress.annotate Key.whitelistSourceRange.name "10.0.0.0/8"

/-- A denied location sets the list of clients by its error. Once the list is corrected, all
features but that one have what they had. -/
theorem keptApart_of_openedIngress :
    closedIngress.AgreeBut Key.whitelistSourceRange.name openedIngress ∧
      (extract Surroundings.bare closedIngress).value.isDenied = true ∧
      (extract Surroundings.bare openedIngress).value.isDenied = false ∧
      KeptApart Surroundings.bare Key.whitelistSourceRange.name closedIngress openedIngress := by
  have hagree : closedIngress.AgreeBut Key.whitelistSourceRange.name openedIngress :=
    closedIngress.agreeBut_annotate Key.whitelistSourceRange.name "10.0.0.0/8"
  exact ⟨hagree, by decide +kernel, by decide +kernel, (keptApart_of_agreeBut _ hagree).1⟩

end IngressController.Annotations
