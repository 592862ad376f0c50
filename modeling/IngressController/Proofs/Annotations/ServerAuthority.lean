import IngressController.Proofs.Annotations.Extraction
import IngressController.Proofs.NameReference
import IngressController.Proofs.Stores

/-!
# `IngressController.Proofs.Annotations.ServerAuthority`: whose certificate verifies the servers

The secret with the authority is referred to by its name alone. The namespace of the Ingress is put
in front, with a slash between them, and the stores take the reference apart again at its first
slash. Whatever slashes the annotation has in it, the part in front is the namespace of the Ingress,
as long as that has none itself, which the names of namespaces never have. So an Ingress cannot have
its servers verified against the secret of another namespace, nor learn from the outcome whether
there is one.

A verification that is asked for is never left out either: where it is not possible there is an
error, and the Ingress is degraded.

* `Certifies`: a certificate is that of a secret in the namespace of an Ingress, under the name
  that the Ingress gives.
* `VerifiedAtHome`: what holds of an Ingress and the stores, and `verifiedAtHome`: it holds of all
  whose namespace has no slash.
-/

set_option autoImplicit false

namespace IngressController.Annotations

open Object

/-! ### The authority that a reference leads to -/

/-- A secret holds an authority. -/
def HoldsAuthority (secret : Secret) : Prop :=
  ∃ data, secret.data = some data ∧ data.contains Stores.authorityEntry = true

/-- The certificate of the authority of a namespace and a name. -/
def certificateAt (s : Stores) (namespaceName name : String) : Certificate where
  secret := namespaceName ++ "/" ++ name
  fileName := s.authorityPath namespaceName name

/-- A name with a namespace in front comes apart into the two. -/
theorem cut?_qualifiedName {namespaceName name : String} (hslash : '/' ∉ namespaceName.toList)
    (hname : name ≠ "") :
    NameReference.cut? (qualifiedName name namespaceName) = some ⟨namespaceName, name⟩ := by
  rw [qualifiedName, if_neg hname]
  exact NameReference.cut?_eq_some_iff.mpr ⟨rfl, hslash⟩

/-- The authority of such a name is that of the secret in the namespace. -/
theorem authority?_qualifiedName (s : Stores) {namespaceName name : String}
    (hslash : '/' ∉ namespaceName.toList) (hname : name ≠ "") {certificate : Certificate} :
    s.authority? (qualifiedName name namespaceName) = some certificate
      ↔ (∃ secret, s.secret? namespaceName name = some secret ∧ HoldsAuthority secret)
        ∧ certificate = certificateAt s namespaceName name := by
  rw [Stores.authority?, cut?_qualifiedName hslash hname, qualifiedName, if_neg hname]
  cases hsecret : s.secret? namespaceName name with
  | none => simp [hsecret]
  | some secret =>
      cases hdata : secret.data with
      | none => simp [hsecret, HoldsAuthority, hdata]
      | some data =>
          by_cases hcontains : data.contains Stores.authorityEntry = true <;>
            simp [hsecret, HoldsAuthority, hdata, hcontains, certificateAt,
              @eq_comm _ _ certificate]

/-! ### Servers that are to be verified -/

/-- A certificate is that of the authority which a secret in the namespace of an Ingress holds
under a name. -/
structure Certifies (s : Stores) (ing : Ingress) (name : String) (secret : Secret)
    (certificate : Certificate) : Prop where
  stored : secret ∈ s.secrets.objects
  inNamespace : secret.metadata.namespaceName = some ing.metadata.namespaceText
  named : secret.metadata.name = some name
  authority : HoldsAuthority secret
  certificate : certificate = certificateAt s ing.metadata.namespaceText name

/-- The name of the secret with the authority that an Ingress asks for, if there is one. -/
def authorityName? (ing : Ingress) : Option String :=
  ing.metadata.annotationText? Key.secureVerifyCaSecret.name

/-- The servers of an Ingress are verified against a secret of its own namespace or not at all, and
if they cannot be verified as it asks, then that is an error. -/
structure VerifiedAtHome (s : Stores) (ing : Ingress) : Prop where
  /-- A certificate is that of a secret in the namespace of the Ingress, under the name that it
  gives. -/
  atHome : ∀ tls, ServerTls.resolve s.authority? ing = .ok tls → tls.certificate ≠ {} →
    ∃ name secret, authorityName? ing = some name ∧ Certifies s ing name secret tls.certificate
  /-- If the Ingress gives a name, then the servers are talked to in TLS and verified, or there is
  an error, and with every default backend it is recorded and the Ingress is degraded. -/
  closed : ∀ name, authorityName? ing = some name → name ≠ "" →
    (∃ secret certificate, Certifies s ing name secret certificate
      ∧ ServerTls.resolve s.authority? ing = .ok { secure := true, certificate })
    ∨ ∃ e, ServerTls.resolve s.authority? ing = .error e
      ∧ ∀ r backend, r = (extract { backend, certificate? := s.authority? } ing).value →
        r.error? .serverTls = some e ∧ r.isDegraded = true
  /-- There is no error if TLS is asked for and the secret is there. -/
  honoured : ∀ name secret certificate, s.secrets.Separate (·.metadata) →
    authorityName? ing = some name → name ≠ "" → asksForTls ing = true →
    Certifies s ing name secret certificate →
    ServerTls.resolve s.authority? ing = .ok { secure := true, certificate }
  /-- Other secrets than those of the namespace make no difference. -/
  blind : ∀ s' : Stores, s'.sslDir = s.sslDir →
    s'.secrets.objects.filter (·.metadata.isIn ing.metadata.namespaceText)
      = s.secrets.objects.filter (·.metadata.isIn ing.metadata.namespaceText) →
    ServerTls.resolve s'.authority? ing = ServerTls.resolve s.authority? ing

/-- Without an annotation the name is empty. -/
theorem authorityName_eq (ing : Ingress) : authorityName ing = (authorityName? ing).getD "" := by
  rw [authorityName, authorityName?, textOf]
  cases ing.metadata.annotationText? Key.secureVerifyCaSecret.name <;> rfl

/-- A name that is not empty has been given. -/
theorem authorityName?_eq_some {ing : Ingress} (h : authorityName ing ≠ "") :
    authorityName? ing = some (authorityName ing) := by
  rw [authorityName_eq] at h ⊢
  cases hname : authorityName? ing with
  | none => rw [hname] at h; exact absurd rfl h
  | some name => rfl

/-- A name that has been given is that of the authority. -/
theorem authorityName_of_eq_some {ing : Ingress} {name : String}
    (h : authorityName? ing = some name) : authorityName ing = name := by
  rw [authorityName_eq, h, Option.getD_some]

section Resolve

variable {ing : Ingress} {name : String} {certificate? : String → Option Certificate}

/-- Without a name there is nothing to verify. -/
theorem resolve_of_unnamed (h : authorityName ing = "") :
    ServerTls.resolve certificate? ing = .ok { secure := asksForTls ing } := by
  rw [ServerTls.resolve, show orElse (textOf ing Key.secureVerifyCaSecret.name) ""
    = authorityName ing from rfl, h]
  rfl

/-- With a name, TLS has to be asked for, and the reference has to lead to a certificate. -/
theorem resolve_of_named (h : authorityName ing = name) (hname : name ≠ "") :
    ServerTls.resolve certificate? ing
      = if asksForTls ing = true then
          (certificate? (qualifiedName name ing.metadata.namespaceText)).elim
            (.error (.secretNotFound (qualifiedName name ing.metadata.namespaceText)))
            fun certificate => .ok { secure := true, certificate }
        else .error (.verifyWithoutTls (qualifiedName name ing.metadata.namespaceText)) := by
  rw [ServerTls.resolve, show orElse (textOf ing Key.secureVerifyCaSecret.name) ""
    = authorityName ing from rfl, show orElse (boolOf ing Key.secureBackends.name) false
    = asksForTls ing from rfl, h, if_neg hname]
  cases asksForTls ing with
  | false => rfl
  | true =>
      cases hfound : certificate? (qualifiedName name ing.metadata.namespaceText) <;>
        simp [hfound]

end Resolve

section Stores

variable {s : Stores} {ing : Ingress} {name : String} {certificate : Certificate}

/-- The reference to a name leads to a certificate of the namespace of the Ingress or to none. -/
theorem exists_certifies (hslash : '/' ∉ ing.metadata.namespaceText.toList)
    (hname : name ≠ "")
    (hfound : s.authority? (qualifiedName name ing.metadata.namespaceText) = some certificate) :
    ∃ secret, Certifies s ing name secret certificate := by
  obtain ⟨⟨secret, hsecret, hholds⟩, rfl⟩ := (authority?_qualifiedName s hslash hname).mp hfound
  obtain ⟨hstored, hnamespace, hnamed⟩ := Store.find?_eq_some hsecret
  refine ⟨secret, hstored, hnamespace, ?_, hholds, rfl⟩
  -- A name that is not empty is not a missing one.
  rw [Metadata.nameText] at hnamed
  cases hmissing : secret.metadata.name with
  | none => rw [hmissing] at hnamed; exact absurd hnamed.symm hname
  | some _ => rw [hmissing] at hnamed; exact congrArg some hnamed

/-- With a name, the servers are verified by the certificate that the reference leads to, or there
is an error which counts against the Ingress. -/
theorem resolve_cases (h : authorityName ing = name) (hname : name ≠ "") :
    (∃ certificate, s.authority? (qualifiedName name ing.metadata.namespaceText) = some certificate
      ∧ ServerTls.resolve s.authority? ing = .ok { secure := true, certificate })
    ∨ ∃ e, ServerTls.resolve s.authority? ing = .error e ∧ e.isMissing = false := by
  rw [resolve_of_named h hname]
  by_cases htls : asksForTls ing = true
  · rw [if_pos htls]
    cases s.authority? (qualifiedName name ing.metadata.namespaceText) with
    | none => exact .inr ⟨_, rfl, rfl⟩
    | some certificate => exact .inl ⟨certificate, rfl, rfl⟩
  · rw [if_neg htls]
    exact .inr ⟨_, rfl, rfl⟩

/-- An error of the servers is recorded, and the Ingress is degraded. -/
theorem degraded_of_error (backend : DefaultBackend) {e : Error}
    (h : ServerTls.resolve s.authority? ing = .error e) (he : e.isMissing = false) :
    (extract { backend, certificate? := s.authority? } ing).value.error? .serverTls = some e
      ∧ (extract { backend, certificate? := s.authority? } ing).value.isDegraded = true := by
  have houtcome : (Feature.serverTls.resolve { backend, certificate? := s.authority? } ing).value
      = .error e := h
  refine ⟨?_, (isDegraded_extract_iff _ _).mpr ⟨.serverTls, ?_⟩⟩
  · rw [error?_extract]
    exact recorded?_eq_some_iff.mpr ⟨houtcome, he⟩
  · rw [houtcome, fails, he]
    rfl

/-- The look-up of a secret in a namespace goes through the secrets of the namespace only. -/
theorem secret?_eq_find?_filter (s : Stores) (namespaceName name : String) :
    s.secret? namespaceName name
      = (s.secrets.objects.filter (·.metadata.isIn namespaceName)).find?
          (·.metadata.nameText == name) := by
  rw [List.find?_filter, Stores.secret?, Store.find?]
  congr 1
  funext secret
  rw [Metadata.isAt, Bool.decide_and, Bool.decide_eq_true, Bool.decide_eq_true]

/-- Of the stores only the directory and the secrets of the namespace decide on an authority. -/
theorem authority?_congr {s' : Stores} (hslash : '/' ∉ ing.metadata.namespaceText.toList)
    (hname : name ≠ "") (hdir : s'.sslDir = s.sslDir)
    (hsecrets : s'.secrets.objects.filter (·.metadata.isIn ing.metadata.namespaceText)
      = s.secrets.objects.filter (·.metadata.isIn ing.metadata.namespaceText)) :
    s'.authority? (qualifiedName name ing.metadata.namespaceText)
      = s.authority? (qualifiedName name ing.metadata.namespaceText) := by
  refine Option.ext fun certificate => ?_
  rw [authority?_qualifiedName s' hslash hname, authority?_qualifiedName s hslash hname,
    secret?_eq_find?_filter, secret?_eq_find?_filter, hsecrets, certificateAt, certificateAt,
    Stores.authorityPath, Stores.authorityPath, hdir]

end Stores

/-- The servers of an Ingress whose namespace has no slash are verified against a secret of this
namespace, by the name that the Ingress gives, or not at all; and if it gives one, then they are, or
the Ingress is degraded. -/
theorem verifiedAtHome (s : Stores) (ing : Ingress)
    (hslash : '/' ∉ ing.metadata.namespaceText.toList) : VerifiedAtHome s ing := by
  refine ⟨fun tls hresolve hne => ?_, fun name hname hnonempty => ?_,
    fun name secret certificate hseparate hname hnonempty htls hcertifies => ?_,
    fun s' hdir hsecrets => ?_⟩
  · by_cases hempty : authorityName ing = ""
    · rw [resolve_of_unnamed hempty] at hresolve
      cases hresolve
      exact absurd rfl hne
    · obtain ⟨certificate, hfound, hok⟩ | ⟨e, herror, -⟩ := resolve_cases rfl hempty
      · rw [hok] at hresolve
        cases hresolve
        obtain ⟨secret, hcertifies⟩ := exists_certifies hslash hempty hfound
        exact ⟨_, secret, authorityName?_eq_some hempty, hcertifies⟩
      · rw [herror] at hresolve
        cases hresolve
  · obtain ⟨certificate, hfound, hok⟩ | ⟨e, herror, he⟩ :=
      resolve_cases (authorityName_of_eq_some hname) hnonempty
    · obtain ⟨secret, hcertifies⟩ := exists_certifies hslash hnonempty hfound
      exact .inl ⟨secret, certificate, hcertifies, hok⟩
    · refine .inr ⟨e, herror, ?_⟩
      rintro _ backend rfl
      exact degraded_of_error backend herror he
  · have hsecret : s.secret? ing.metadata.namespaceText name = some secret :=
      hseparate.find?_eq_some_iff.mpr ⟨hcertifies.stored, hcertifies.inNamespace, by
        rw [Metadata.nameText, hcertifies.named, Option.getD_some]⟩
    have hfound : s.authority? (qualifiedName name ing.metadata.namespaceText) = some certificate :=
      (authority?_qualifiedName s hslash hnonempty).mpr
        ⟨⟨secret, hsecret, hcertifies.authority⟩, hcertifies.certificate⟩
    rw [resolve_of_named (authorityName_of_eq_some hname) hnonempty, if_pos htls, hfound,
      Option.elim_some]
  · by_cases hempty : authorityName ing = ""
    · rw [resolve_of_unnamed hempty, resolve_of_unnamed hempty]
    · rw [resolve_of_named rfl hempty, resolve_of_named rfl hempty,
        authority?_congr hslash hempty hdir hsecrets]

/-- An Ingress that asks for its servers to be verified, and gives the reference to a secret of
another namespace for the name of one. -/
def reachingOut : Ingress :=
  let ing := Key.ingressWith [(.secureBackends, "true"), (.secureVerifyCaSecret, "kube-system/ca")]
  { ing with metadata := { ing.metadata with namespaceName := some "default" } }

/-- Stores with that secret. -/
def neighbourStores : Stores where
  secrets := { objects := [{
    metadata := { name := some "ca", namespaceName := some "kube-system" }
    data := some ((∅ : TextMap String).insert Stores.authorityEntry "") }] }

/-- The secret is there, but the Ingress does not reach it: it is degraded. -/
theorem verifiedAtHome_reachingOut :
    '/' ∉ reachingOut.metadata.namespaceText.toList
      ∧ neighbourStores.authority? "kube-system/ca"
        = some (certificateAt neighbourStores "kube-system" "ca")
      ∧ (extract { backend := {}, certificate? := neighbourStores.authority? }
          reachingOut).value.errors = [(.serverTls, .secretNotFound "default/kube-system/ca")]
      ∧ VerifiedAtHome neighbourStores reachingOut :=
  ⟨by decide, by decide +kernel, by decide +kernel, verifiedAtHome _ _ (by decide)⟩

end IngressController.Annotations
