import IngressController.Proofs.NameReference
import IngressController.Proofs.Stores
import IngressController.Proofs.TcpService.Endpoints

/-!
# `IngressController.Proofs.TcpService.Verdict`: what becomes of an entry

Once the stores have been filled, every entry of the table has a verdict. There are five conditions
that an entry has to meet, in this order: its key is a number of sixteen bits, it gives the name of
a Service, this Service is there, it has a port that the entry selects, and the secret is there if
the entry gives one. An entry that meets them all has a backend, and any other is skipped for the
first one that it does not meet. The reason for a skip carries the texts of the entry as they were
read.

Services and secrets are named by their namespaces and names, cut at the first slash of a text. The
certificate of a backend is that of the secret it gives; without a secret there is no certificate.

* `Refers`: the object of a store that a text names.
* `Judged`: the verdict on an entry, with one rule for each condition.
* `Decided`: an entry has the verdict that the rules give, and `decided_of_synced`: once the stores
  have been filled, every entry has.
-/

set_option autoImplicit false

namespace IngressController.TcpService

open Object

/-! ### Objects that texts name -/

/-- A text names an object of a store: the namespace and the name of the object stand before and
behind its first slash, and no object before it in the store has both. -/
def Refers {α : Type} (metadata : α → Metadata) (store : Store α) (text : String)
    (r : NameReference) (object : α) : Prop :=
  text = r.print ∧ '/' ∉ r.namespaceName.toList
    ∧ IsFirst (fun o => (metadata o).namespaceName = some r.namespaceName
      ∧ (metadata o).nameText = r.name) store.objects object

/-- A text is cut and what it names is looked up. -/
theorem refers_iff {α : Type} {metadata : α → Metadata} {store : Store α} {text : String}
    {r : NameReference} {object : α} :
    Refers metadata store text r object ↔ NameReference.cut? text = some r
      ∧ store.find? metadata r.namespaceName r.name = some object := by
  rw [Refers, ← and_assoc, ← NameReference.cut?_eq_some_iff, Store.find?,
    find?_eq_some_iff_isFirst fun o => (metadata o).isAt_iff r.namespaceName r.name]

/-- The file with the certificate for the text that gives a secret. -/
inductive CertificateFor (s : Stores) (text : String) : String → Prop
  /-- Without a secret there is no file. -/
  | none (htext : text = "") : CertificateFor s text ""
  /-- With one it is that of the secret. -/
  | secret {r : NameReference} {secret : Secret} (htext : text ≠ "")
      (h : Refers (·.metadata) s.secrets text r secret) :
      CertificateFor s text (s.certificatePath r.namespaceName r.name)

/-! ### The rules -/

/-- What a directive asks for, on a public port. -/
def asked (publicPort : Nat) (directive : String) : Directive where
  publicPort := publicPort
  service := Directive.field directive 0
  port := Directive.field directive 1
  proxy := {
    decode := isDecodeMarker (Directive.field directive 2)
    encode := encodeMarker? (Directive.field directive 3) }
  secret := Directive.field directive 4

/-- The key of an entry is the number of a port, and its directive gives a name for the Service. -/
structure Readable (key directive : String) (publicPort : Nat) : Prop where
  key : Text.readUnsigned? 16 key = some publicPort
  name : Directive.field directive 0 ≠ ""

/-- And the directive names a Service, and selects one of its ports. -/
structure Selected (s : Stores) (key directive : String) (publicPort : Nat) (service : Service)
    (port : ServicePort) : Prop extends Readable key directive publicPort where
  refers : ∃ r, Refers (·.metadata) s.services (Directive.field directive 0) r service
  selects : PortFor service (Directive.field directive 1) port

/-- The verdict on an entry. -/
inductive Judged (s : Stores) (key directive : String) : Verdict → Prop
  /-- The key has to be the number of a port. -/
  | invalidPort (hkey : Text.readUnsigned? 16 key = none) :
      Judged s key directive (.error (.invalidPort key))
  /-- The directive has to give a name for the Service. -/
  | emptyServiceName {publicPort : Nat} (hkey : Text.readUnsigned? 16 key = some publicPort)
      (hname : Directive.field directive 0 = "") :
      Judged s key directive (.error (.emptyServiceName publicPort))
  /-- It has to name a Service of the store. -/
  | serviceNotFound {publicPort : Nat} (hread : Readable key directive publicPort)
      (hnone : ∀ r service,
        ¬ Refers (·.metadata) s.services (Directive.field directive 0) r service) :
      Judged s key directive (.error (.serviceNotFound publicPort (Directive.field directive 0)))
  /-- It has to select a port of this Service. -/
  | portNotFound {publicPort : Nat} {service : Service} (hread : Readable key directive publicPort)
      (hservice : ∃ r, Refers (·.metadata) s.services (Directive.field directive 0) r service)
      (hnone : ∀ port, ¬ PortFor service (Directive.field directive 1) port) :
      Judged s key directive (.error
        (.portNotFound publicPort (Directive.field directive 0) (Directive.field directive 1)))
  /-- It has to name a secret of the store, if it gives one at all. -/
  | secretNotFound {publicPort : Nat} {service : Service} {port : ServicePort}
      (hselected : Selected s key directive publicPort service port)
      (hsecret : Directive.field directive 4 ≠ "")
      (hnone : ∀ r secret,
        ¬ Refers (·.metadata) s.secrets (Directive.field directive 4) r secret) :
      Judged s key directive (.error (.secretNotFound publicPort (Directive.field directive 4)))
  /-- Then the entry has a backend, with the servers that the endpoints of the Service list. -/
  | served {publicPort : Nat} {service : Service} {port : ServicePort} {path : String}
      {endpoints? : Option Endpoints} {servers : List Endpoint}
      (hselected : Selected s key directive publicPort service port)
      (hpath : CertificateFor s (Directive.field directive 4) path)
      (hendpoints : s.getEndpoints service = .ok endpoints?)
      (hservers : Lists endpoints? port servers) :
      Judged s key directive (.ok {
        name := backendName (Directive.field directive 0)
        port := publicPort
        endpoints := servers
        proxy := (asked publicPort directive).proxy
        certificatePath := path })

/-- The five conditions that an entry with a backend meets. -/
structure Servable (s : Stores) (key directive : String) : Prop where
  port : ∃ publicPort, Text.readUnsigned? 16 key = some publicPort
  name : Directive.field directive 0 ≠ "" ∧ '/' ∈ (Directive.field directive 0).toList
  service : ∃ r service, Refers (·.metadata) s.services (Directive.field directive 0) r service
    ∧ ∃ port, PortFor service (Directive.field directive 1) port
  secret : Directive.field directive 4 = ""
    ∨ ∃ r secret, Refers (·.metadata) s.secrets (Directive.field directive 4) r secret

/-- An entry has the verdict that the rules give. -/
structure Decided (s : Stores) (key directive : String) : Prop where
  /-- The look-ups lead to a verdict. -/
  verdict : ∃ verdict, (Lookups.ofStores s).convert key directive = .ok verdict
  /-- It is the one for the first condition that the entry does not meet, if there is any. -/
  judged : ∀ verdict,
    (Lookups.ofStores s).convert key directive = .ok verdict ↔ Judged s key directive verdict
  /-- The entry has a backend exactly if it meets all conditions. -/
  served : (∃ backend, (Lookups.ofStores s).convert key directive = .ok (.ok backend))
    ↔ Servable s key directive
  /-- The certificate of a backend is that of the secret, and there is none without a secret. -/
  certificate : ∀ backend, (Lookups.ofStores s).convert key directive = .ok (.ok backend) →
    CertificateFor s (Directive.field directive 4) backend.certificatePath
      ∧ (backend.certificatePath = "" ↔ Directive.field directive 4 = "")

section Rules

variable {s : Stores} {key directive text path : String} {publicPort : Nat} {service : Service}
  {port : ServicePort} {d : Directive} {verdict : Verdict}

/-- A directive is read as what it asks for, on the port that its key is the number of. -/
theorem parse_eq_asked (h : Readable key directive publicPort) :
    Directive.parse key directive = .ok (asked publicPort directive) := by
  simp only [Directive.parse, h.key, h.name, if_false, asked]

/-- What is looked up in stores that have been filled is what is there. -/
theorem whenSynced_eq_ok {α : Type} (hsynced : s.synced = true) (kind : String) (answer : α) :
    s.whenSynced kind answer = .ok answer :=
  if_pos hsynced

/-- The Service that is looked up is the one that the text names. -/
theorem referredService_ofStores_iff (hsynced : s.synced = true) :
    (Lookups.ofStores s).referredService text = .ok (some service)
      ↔ ∃ r, Refers (·.metadata) s.services text r service := by
  simp only [referredService_eq_some_iff, refers_iff, Lookups.ofStores, Stores.getService,
    whenSynced_eq_ok hsynced, Except.ok.injEq, Stores.service?]

/-- If the text names none, the answer is that there is none. -/
theorem referredService_ofStores_none (hsynced : s.synced = true)
    (hnone : ∀ r service, ¬ Refers (·.metadata) s.services text r service) :
    (Lookups.ofStores s).referredService text = .ok none := by
  cases h : (Lookups.ofStores s).referredService text with
  | error e =>
      obtain ⟨r, -, hservice⟩ := referredService_eq_error_iff.mp h
      simp [Lookups.ofStores, Stores.getService, whenSynced_eq_ok hsynced] at hservice
  | ok service? =>
      cases service? with
      | none => rfl
      | some service =>
          obtain ⟨r, hr⟩ := (referredService_ofStores_iff hsynced).mp h
          exact absurd hr (hnone r service)

/-- The directive of an entry selects the port of the Service that it names. -/
theorem selects_of_selected (hsynced : s.synced = true)
    (h : Selected s key directive publicPort service port) :
    (Lookups.ofStores s).Selects (asked publicPort directive) service port :=
  ⟨referredService_eq_some_iff.mp ((referredService_ofStores_iff hsynced).mpr h.refers),
    findPort?_eq_some_iff.mpr h.selects⟩

/-- The file that is looked up is that of the secret that the text names. -/
theorem getCertificatePath_of_refers (hsynced : s.synced = true) {r : NameReference}
    {secret : Secret} (h : Refers (·.metadata) s.secrets text r secret) :
    s.getCertificatePath text = .ok (some (s.certificatePath r.namespaceName r.name)) := by
  obtain ⟨hcut, hfound⟩ := refers_iff.mp h
  simp [Stores.getCertificatePath, whenSynced_eq_ok hsynced, hcut, Stores.secret?, hfound]

/-- If the text names no secret, there is no file. -/
theorem getCertificatePath_of_not_refers (hsynced : s.synced = true)
    (hnone : ∀ r secret, ¬ Refers (·.metadata) s.secrets text r secret) :
    s.getCertificatePath text = .ok none := by
  rw [Stores.getCertificatePath, whenSynced_eq_ok hsynced]
  cases hcut : NameReference.cut? text with
  | none => rfl
  | some r =>
      cases hfound : s.secret? r.namespaceName r.name with
      | none => simp [hfound]
      | some secret => exact absurd (refers_iff.mpr ⟨hcut, hfound⟩) (hnone r secret)

/-- The certificate of a directive is the one for the secret that it gives. -/
theorem certificateOf_of_certificateFor (hsynced : s.synced = true)
    (h : CertificateFor s d.secret path) :
    (Lookups.ofStores s).certificateOf d = .ok (.ok path) := by
  rw [Lookups.certificateOf]
  cases h with
  | none htext => rw [if_pos htext]
  | secret htext hr =>
      rw [if_neg htext]
      show Except.map _ (s.getCertificatePath d.secret) = _
      rw [getCertificatePath_of_refers hsynced hr]
      rfl

/-- A secret that the directive gives and that is not there is reported as missing. -/
theorem certificateOf_of_not_refers (hsynced : s.synced = true) (hsecret : d.secret ≠ "")
    (hnone : ∀ r secret, ¬ Refers (·.metadata) s.secrets d.secret r secret) :
    (Lookups.ofStores s).certificateOf d
      = .ok (.error (.secretNotFound d.publicPort d.secret)) := by
  rw [Lookups.certificateOf, if_neg hsecret]
  show Except.map _ (s.getCertificatePath d.secret) = _
  rw [getCertificatePath_of_not_refers hsynced hnone]
  rfl

/-- Every rule gives the verdict that the look-ups lead to. -/
theorem convert_of_judged (hsynced : s.synced = true) (h : Judged s key directive verdict) :
    (Lookups.ofStores s).convert key directive = .ok verdict := by
  cases h with
  | invalidPort hkey => simp only [Lookups.convert, Directive.parse, hkey]
  | emptyServiceName hkey hname => simp only [Lookups.convert, Directive.parse, hkey, hname, if_true]
  | serviceNotFound hread hnone =>
      rw [convert_of_parse (parse_eq_asked hread), resolve_eq, asked,
        referredService_ofStores_none hsynced hnone]
      rfl
  | portNotFound hread hservice hnone =>
      rw [convert_of_parse (parse_eq_asked hread), resolve_eq, asked,
        (referredService_ofStores_iff hsynced).mpr hservice]
      show (findPort? _ (Directive.field directive 1)).elim _ _ = _
      rw [findPort?_eq_none_iff.mpr hnone]
      rfl
  | @secretNotFound publicPort _ _ hselected hsecret hnone =>
      have hcertificate : (Lookups.ofStores s).certificateOf (asked publicPort directive)
          = .ok (.error (.secretNotFound publicPort (Directive.field directive 4))) :=
        certificateOf_of_not_refers hsynced hsecret hnone
      rw [convert_of_parse (parse_eq_asked hselected.toReadable),
        resolve_of_selects (selects_of_selected hsynced hselected), Lookups.serve, hcertificate]
      rfl
  | @served publicPort service port path endpoints? servers hselected hpath hendpoints hservers =>
      obtain rfl : servers = endpointsOf (addressesBehind endpoints? port) := lists_iff.mp hservers
      have haddresses : (Lookups.ofStores s).servers service port
          = .ok (addressesBehind endpoints? port) :=
        servers_eq_ok_iff.mpr ⟨endpoints?, hendpoints, rfl⟩
      have hcertificate : (Lookups.ofStores s).certificateOf (asked publicPort directive)
          = .ok (.ok path) := certificateOf_of_certificateFor hsynced hpath
      rw [convert_of_parse (parse_eq_asked hselected.toReadable),
        resolve_of_selects (selects_of_selected hsynced hselected), Lookups.serve, hcertificate]
      show Except.map _ (Lookups.servers _ service port) = _
      rw [haddresses]
      rfl

/-- A certificate is found, or else a secret is given that is not there. -/
theorem certificateFor_or (s : Stores) (text : String) :
    (∃ path, CertificateFor s text path)
      ∨ text ≠ "" ∧ ∀ r secret, ¬ Refers (·.metadata) s.secrets text r secret := by
  by_cases htext : text = ""
  · exact .inl ⟨_, .none htext⟩
  · by_cases hsecret : ∃ r secret, Refers (·.metadata) s.secrets text r secret
    · obtain ⟨r, secret, hr⟩ := hsecret
      exact .inl ⟨_, .secret htext hr⟩
    · exact .inr ⟨htext, by simpa using hsecret⟩

/-- Some rule applies to every entry. -/
theorem exists_judged (hsynced : s.synced = true) (key directive : String) :
    ∃ verdict, Judged s key directive verdict := by
  cases hkey : Text.readUnsigned? 16 key with
  | none => exact ⟨_, .invalidPort hkey⟩
  | some publicPort =>
      by_cases hname : Directive.field directive 0 = ""
      · exact ⟨_, .emptyServiceName hkey hname⟩
      have hread : Readable key directive publicPort := ⟨hkey, hname⟩
      by_cases hservice :
          ∃ service r, Refers (·.metadata) s.services (Directive.field directive 0) r service
      case neg =>
        exact ⟨_, .serviceNotFound hread fun r service h => hservice ⟨service, r, h⟩⟩
      obtain ⟨service, hrefers⟩ := hservice
      by_cases hport : ∃ port, PortFor service (Directive.field directive 1) port
      case neg => exact ⟨_, .portNotFound hread hrefers (by simpa using hport)⟩
      obtain ⟨port, hselects⟩ := hport
      have hselected : Selected s key directive publicPort service port :=
        ⟨hread, hrefers, hselects⟩
      obtain ⟨path, hpath⟩ | ⟨hsecret, hnone⟩ :=
        certificateFor_or s (Directive.field directive 4)
      · exact ⟨_, .served hselected hpath (whenSynced_eq_ok hsynced _ _) (lists_iff.mpr rfl)⟩
      · exact ⟨_, .secretNotFound hselected hsecret hnone⟩

/-- The verdict on an entry is the one that the rules give. -/
theorem convert_eq_ok_iff_judged (hsynced : s.synced = true) :
    (Lookups.ofStores s).convert key directive = .ok verdict ↔ Judged s key directive verdict := by
  refine ⟨fun h => ?_, convert_of_judged hsynced⟩
  -- Some rule applies, and what it gives can only be this verdict.
  obtain ⟨verdict', hjudged⟩ := exists_judged hsynced key directive
  have hsame := convert_of_judged hsynced hjudged
  rw [h, Except.ok.injEq] at hsame
  exact hsame ▸ hjudged

/-- The path of a file is empty only without a secret. -/
theorem CertificateFor.path_eq_empty_iff (h : CertificateFor s text path) :
    path = "" ↔ text = "" := by
  cases h with
  | none htext => exact iff_of_true rfl htext
  | secret htext _ => exact iff_of_false (by simp [Stores.certificatePath]) htext

/-- A certificate is found only if no secret is missing. -/
theorem CertificateFor.not_missing (h : CertificateFor s text path) :
    text = "" ∨ ∃ r secret, Refers (·.metadata) s.secrets text r secret := by
  cases h with
  | none htext => exact .inl htext
  | secret _ hr => exact .inr ⟨_, _, hr⟩

/-- A text that names an object has a slash. -/
theorem slash_mem_of_refers {α : Type} {metadata : α → Metadata} {store : Store α}
    {r : NameReference} {object : α} (h : Refers metadata store text r object) :
    '/' ∈ text.toList := by
  rw [h.1, NameReference.print]
  simp

/-- An entry that is given a backend has a Service, a port and the certificate for its secret. -/
theorem Judged.selected {backend : Backend} (h : Judged s key directive (.ok backend)) :
    (∃ publicPort service port, Selected s key directive publicPort service port)
      ∧ CertificateFor s (Directive.field directive 4) backend.certificatePath := by
  -- The rule for backends builds a record, which must not be taken for `backend` field by field.
  generalize hverdict : (Except.ok backend : Verdict) = verdict at h
  cases h with
  | served hselected hpath _ _ =>
      rw [Except.ok.injEq] at hverdict
      subst hverdict
      exact ⟨⟨_, _, _, hselected⟩, hpath⟩
  | _ => cases hverdict

/-- The rules give a backend exactly if all conditions are met. -/
theorem exists_judged_ok_iff (hsynced : s.synced = true) :
    (∃ backend, Judged s key directive (.ok backend)) ↔ Servable s key directive := by
  constructor
  · rintro ⟨backend, h⟩
    obtain ⟨⟨publicPort, service, port, hselected⟩, hpath⟩ := h.selected
    obtain ⟨r, hr⟩ := hselected.refers
    exact ⟨⟨publicPort, hselected.key⟩, ⟨hselected.name, slash_mem_of_refers hr⟩,
      ⟨r, service, hr, port, hselected.selects⟩, hpath.not_missing⟩
  · rintro ⟨⟨publicPort, hkey⟩, ⟨hname, -⟩, ⟨r, service, hr, port, hselects⟩, hsecret⟩
    obtain ⟨path, hpath⟩ | ⟨hgiven, hnone⟩ := certificateFor_or s (Directive.field directive 4)
    · exact ⟨_, .served ⟨⟨hkey, hname⟩, ⟨r, hr⟩, hselects⟩ hpath (whenSynced_eq_ok hsynced _ _)
        (lists_iff.mpr rfl)⟩
    · obtain htext | ⟨r, secret, hr⟩ := hsecret
      · exact absurd htext hgiven
      · exact absurd hr (hnone r secret)

end Rules

/-- Once the stores have been filled, every entry of the table has the verdict that the rules
give. -/
theorem decided_of_synced (s : Stores) (key directive : String) (hsynced : s.synced = true) :
    Decided s key directive where
  verdict := (exists_judged hsynced key directive).imp fun _ => convert_of_judged hsynced
  judged _ := convert_eq_ok_iff_judged hsynced
  served := by simp only [convert_eq_ok_iff_judged hsynced, exists_judged_ok_iff hsynced]
  certificate := by
    intro backend hbackend
    obtain ⟨-, hpath⟩ := ((convert_eq_ok_iff_judged hsynced).mp hbackend).selected
    exact ⟨hpath, hpath.path_eq_empty_iff⟩

/-- Filled stores with a Service that has two ports, the second of which has the number of the
first for its name, and with a secret. -/
def shopStores : Stores where
  services := { objects := [{
    metadata := { namespaceName := some "default", name := some "shop" }
    spec := some { ports := some [{ port := 443 }, { name := some "443", port := 80 }] } }] }
  endpoints := { objects := [{
    metadata := { namespaceName := some "default", name := some "shop" }
    subsets := some [{
      addresses := some [{ ip := "10.0.0.1" }]
      ports := some [{ port := 8443 }, { name := some "443", port := 8080 }] }] }] }
  secrets := { objects := [{
    metadata := { namespaceName := some "default", name := some "tls" } }] }
  synced := true

/-- The backend of an entry for this Service, at the port that has the name, with the secret. -/
def shopBackend : Backend where
  name := "default_shop"
  port := 443
  endpoints := [{ name := "srv001", ip := "10.0.0.1", port := 8080, target := "" }]
  certificatePath := "/var/haproxy/ssl/default_tls.pem"

/-- The entry has this backend, and without the namespace the secret is missing. -/
theorem decided_shopStores :
    Decided shopStores "443" " default/shop : 443 ::: default/tls"
      ∧ Judged shopStores "443" " default/shop : 443 ::: default/tls" (.ok shopBackend)
      ∧ Judged shopStores "443" "default/shop:443:::tls" (.error (.secretNotFound 443 "tls")) :=
  ⟨decided_of_synced shopStores _ _ rfl,
    ((decided_of_synced shopStores _ _ rfl).judged _).mp (by decide +kernel),
    ((decided_of_synced shopStores _ _ rfl).judged _).mp (by decide +kernel)⟩

end IngressController.TcpService
