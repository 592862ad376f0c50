import IngressController.Proofs.Text.Map
import IngressController.TcpService.Table

/-!
# `IngressController.Proofs.TcpService.Table`: a pass over the table is one over its entries

A pass makes a verdict on each entry of the table, in the order of the keys, and ends at the first
look-up that fails. The verdicts have nothing to do with each other, whatever the look-ups answer,
so the outcome of a pass is put together from the outcomes that tables of one entry have.

* `Lookups.Reaches`: an entry gets as far as a look-up that fails. `convert_eq_error_iff` says that
  nothing else keeps an entry from its verdict.
* `value_convertAll_append`: the entries before a point have been dealt with, each by its verdict,
  when the pass goes on with those after it.
* `EntryWise`: an outcome is put together from the verdicts on single entries, and
  `sync_entry_by_entry`: every outcome is.
-/

set_option autoImplicit false

namespace IngressController.TcpService

open Object

/-! ### Look-ups that fail -/

/-- A directive names a Service that exists and one of its ports. -/
def Lookups.Selects (l : Lookups) (d : Directive) (service : Service) (port : ServicePort) : Prop :=
  (∃ r, NameReference.cut? d.service = some r
    ∧ l.service r.namespaceName r.name = .ok (some service))
  ∧ findPort? service d.port = some port

/-- A directive gets as far as a look-up that fails with an error. -/
inductive Lookups.FailsFor (l : Lookups) (d : Directive) (e : CacheError) : Prop
  /-- The Service is looked up first. -/
  | service {r : NameReference} (hr : NameReference.cut? d.service = some r)
      (h : l.service r.namespaceName r.name = .error e)
  /-- If it is found, and the port in it, then the secret is looked up, if there is one. -/
  | certificate {service : Service} {port : ServicePort} (hd : l.Selects d service port)
      (hsecret : d.secret ≠ "") (h : l.certificatePath d.secret = .error e)
  /-- If that is not missing, then the endpoints are looked up. -/
  | endpoints {service : Service} {port : ServicePort} (hd : l.Selects d service port)
      (hsecret : d.secret = "" ∨ ∃ path, l.certificatePath d.secret = .ok (some path))
      (h : l.endpoints service = .error e)

/-- An entry can be read and gets as far as a look-up that fails with an error. -/
def Lookups.Reaches (l : Lookups) (entry : String × String) (e : CacheError) : Prop :=
  ∃ d, Directive.parse entry.1 entry.2 = .ok d ∧ l.FailsFor d e

section Entry

variable {l : Lookups} {d : Directive} {e : CacheError}

/-- Of two computations in a row one fails, the second only if the first does not. -/
theorem bind_eq_error_iff {ε α β : Type} {x : Except ε α} {f : α → Except ε β} {e : ε} :
    x.bind f = .error e ↔ x = .error e ∨ ∃ a, x = .ok a ∧ f a = .error e := by
  cases x <;> simp [Except.bind]

/-- Two computations in a row have a result exactly if both have. -/
theorem bind_eq_ok_iff {ε α β : Type} {x : Except ε α} {f : α → Except ε β} {b : β} :
    x.bind f = .ok b ↔ ∃ a, x = .ok a ∧ f a = .ok b := by
  cases x <;> simp [Except.bind]

/-- The look-up of the Service fails only if the reference can be cut. -/
theorem referredService_eq_error_iff {reference : String} :
    l.referredService reference = .error e ↔ ∃ r, NameReference.cut? reference = some r
      ∧ l.service r.namespaceName r.name = .error e := by
  rw [Lookups.referredService]
  cases NameReference.cut? reference <;> simp

/-- A Service is found only if the reference can be cut. -/
theorem referredService_eq_some_iff {reference : String} {service : Service} :
    l.referredService reference = .ok (some service)
      ↔ ∃ r, NameReference.cut? reference = some r
        ∧ l.service r.namespaceName r.name = .ok (some service) := by
  rw [Lookups.referredService]
  cases NameReference.cut? reference <;> simp

/-- The look-up of the secret fails only if there is a secret. -/
theorem certificateOf_eq_error_iff :
    l.certificateOf d = .error e ↔ d.secret ≠ "" ∧ l.certificatePath d.secret = .error e := by
  rw [Lookups.certificateOf]
  split
  · next hsecret => simp [hsecret]
  · next hsecret =>
      rw [and_iff_right hsecret]
      cases l.certificatePath d.secret <;> simp [Except.map]

/-- A directive has a certificate file, maybe the empty one, unless its secret is missing. -/
theorem exists_certificateOf_eq_ok_iff :
    (∃ path, l.certificateOf d = .ok (.ok path))
      ↔ d.secret = "" ∨ ∃ path, l.certificatePath d.secret = .ok (some path) := by
  rw [Lookups.certificateOf]
  split
  · next hsecret => simp [hsecret]
  · next hsecret =>
      rw [or_iff_right hsecret]
      cases l.certificatePath d.secret with
      | error e => simp [Except.map]
      | ok path? => cases path? <;> simp [Except.map]

/-- The look-up of the addresses fails if that of the endpoints does. -/
theorem servers_eq_error_iff {service : Service} {port : ServicePort} :
    l.servers service port = .error e ↔ l.endpoints service = .error e := by
  rw [Lookups.servers]
  cases l.endpoints service <;> simp [Except.map]

/-- What becomes of a directive once its Service and the port of it have been found. -/
def Lookups.serve (l : Lookups) (d : Directive) (service : Service) (port : ServicePort) :
    Except CacheError Verdict :=
  (l.certificateOf d).bind fun
    | .error skip => .ok (.error skip)
    | .ok path => (l.servers service port).map fun addresses =>
      .ok {
        name := backendName d.service
        port := d.publicPort
        endpoints := endpointsOf addresses
        proxy := d.proxy
        certificatePath := path }

/-- The verdict on a directive, look-up by look-up. -/
theorem resolve_eq (l : Lookups) (d : Directive) :
    l.resolve d = (l.referredService d.service).bind fun service? =>
      service?.elim (.ok (.error (.serviceNotFound d.publicPort d.service))) fun service =>
        (findPort? service d.port).elim
          (.ok (.error (.portNotFound d.publicPort d.service d.port))) (l.serve d service) := by
  rw [Lookups.resolve]
  cases l.referredService d.service with
  | error e => rfl
  | ok service? =>
      cases service? with
      | none => rfl
      | some service =>
          cases hport : findPort? service d.port with
          | none => simp [bind, Except.bind, pure, Except.pure, hport]
          | some port =>
              simp only [bind, Except.bind, pure, Except.pure, hport, Option.elim_some,
                Lookups.serve]
              cases l.certificateOf d with
              | error e => rfl
              | ok certificate => cases certificate <;> rfl

/-- A directive with a Service and a port goes on to be served. -/
theorem resolve_of_selects {service : Service} {port : ServicePort}
    (hd : l.Selects d service port) : l.resolve d = l.serve d service port := by
  rw [resolve_eq, referredService_eq_some_iff.mpr hd.1]
  show (findPort? service d.port).elim _ (l.serve d service) = _
  rw [hd.2, Option.elim_some]

/-- A directive that is served names a port of a Service, and its certificate and its addresses have
been found. -/
theorem exists_selects_of_resolve {backend : Backend} (h : l.resolve d = .ok (.ok backend)) :
    ∃ service port path addresses, l.Selects d service port ∧ l.certificateOf d = .ok (.ok path)
      ∧ l.servers service port = .ok addresses
      ∧ backend = {
        name := backendName d.service
        port := d.publicPort
        endpoints := endpointsOf addresses
        proxy := d.proxy
        certificatePath := path } := by
  rw [resolve_eq, bind_eq_ok_iff] at h
  obtain ⟨service?, hfound, h⟩ := h
  cases service? with
  | none => cases h
  | some service =>
      cases hport : findPort? service d.port with
      | none => simp [hport] at h
      | some port =>
          simp only [hport, Option.elim_some, Lookups.serve, bind_eq_ok_iff] at h
          obtain ⟨certificate, hcertificate, h⟩ := h
          cases certificate with
          | error skip => cases h
          | ok path =>
              cases hservers : l.servers service port with
              | error e => simp [hservers, Except.map] at h
              | ok addresses =>
                  simp only [hservers, Except.map, Except.ok.injEq] at h
                  exact ⟨service, port, path, addresses,
                    ⟨referredService_eq_some_iff.mp hfound, hport⟩, hcertificate, hservers, h.symm⟩

/-- Once the port has been found, the look-ups of the secret and of the endpoints can fail. -/
theorem serve_eq_error_iff {service : Service} {port : ServicePort} :
    l.serve d service port = .error e
      ↔ d.secret ≠ "" ∧ l.certificatePath d.secret = .error e
        ∨ (d.secret = "" ∨ ∃ path, l.certificatePath d.secret = .ok (some path))
          ∧ l.endpoints service = .error e := by
  rw [Lookups.serve, bind_eq_error_iff, certificateOf_eq_error_iff,
    ← exists_certificateOf_eq_ok_iff, ← @servers_eq_error_iff l e service port]
  refine or_congr_right ⟨?_, ?_⟩
  · rintro ⟨certificate, hcertificate, hservers⟩
    cases certificate with
    | error skip => cases hservers
    | ok path =>
        refine ⟨⟨path, hcertificate⟩, ?_⟩
        cases hlist : l.servers service port <;> rw [hlist] at hservers <;> cases hservers
        rfl
  · rintro ⟨⟨path, hcertificate⟩, hservers⟩
    exact ⟨.ok path, hcertificate, by rw [hservers]; rfl⟩

/-- Nothing but a look-up that fails keeps a directive from its verdict. -/
theorem resolve_eq_error_iff : l.resolve d = .error e ↔ l.FailsFor d e := by
  constructor
  · intro hresolve
    rw [resolve_eq, bind_eq_error_iff, referredService_eq_error_iff] at hresolve
    obtain ⟨r, hr, hservice⟩ | ⟨service?, hfound, hrest⟩ := hresolve
    · exact .service hr hservice
    · cases service? with
      | none => cases hrest
      | some service =>
          cases hport : findPort? service d.port with
          | none =>
              simp only [hport, Option.elim_some, Option.elim_none] at hrest
              cases hrest
          | some port =>
              simp only [hport, Option.elim_some] at hrest
              have hd : l.Selects d service port :=
                ⟨referredService_eq_some_iff.mp hfound, hport⟩
              obtain ⟨hsecret, hpath⟩ | ⟨hsecret, hendpoints⟩ := serve_eq_error_iff.mp hrest
              · exact .certificate hd hsecret hpath
              · exact .endpoints hd hsecret hendpoints
  · intro hfails
    cases hfails with
    | service hr hservice =>
        rw [resolve_eq, bind_eq_error_iff, referredService_eq_error_iff]
        exact .inl ⟨_, hr, hservice⟩
    | certificate hd hsecret hpath =>
        rw [resolve_of_selects hd, serve_eq_error_iff]
        exact .inl ⟨hsecret, hpath⟩
    | endpoints hd hsecret hendpoints =>
        rw [resolve_of_selects hd, serve_eq_error_iff]
        exact .inr ⟨hsecret, hendpoints⟩

/-- Nothing but a look-up that fails keeps an entry from its verdict. -/
theorem convert_eq_error_iff {entry : String × String} :
    l.convert entry.1 entry.2 = .error e ↔ l.Reaches entry e := by
  rw [Lookups.convert, Lookups.Reaches]
  cases Directive.parse entry.1 entry.2 with
  | error skip => simp
  | ok d => simpa using resolve_eq_error_iff

end Entry

/-! ### Going through the entries -/

/-- The backend of a verdict, if it has one. -/
def Verdict.backend? : Verdict → Option Backend
  | .ok backend => some backend
  | .error _ => none

/-- The reason for which a verdict skips its entry, if it does. -/
def Verdict.skip? : Verdict → Option Skip
  | .ok _ => none
  | .error skip => some skip

/-- An outcome with some more verdicts taken into it, before the backends are ordered. -/
def Outcome.addAll (outcome : Outcome) (verdicts : List Verdict) : Outcome where
  backends := outcome.backends ++ verdicts.filterMap Verdict.backend?
  skipped := outcome.skipped ++ verdicts.filterMap Verdict.skip?

/-- A verdict that is taken in is followed by those after it. -/
theorem Outcome.addAll_cons (outcome : Outcome) (verdict : Verdict) (verdicts : List Verdict) :
    outcome.addAll (verdict :: verdicts) = ((outcome.add verdict).value).addAll verdicts := by
  cases verdict with
  | ok backend => simp [addAll, add, List.filterMap_cons, Verdict.backend?, Verdict.skip?]
  | error skip => simp [addAll, add, List.filterMap_cons, Verdict.backend?, Verdict.skip?]

/-- Each of some entries has a verdict. -/
def Lookups.Judges (l : Lookups) (entries : List (String × String)) (verdicts : List Verdict) :
    Prop :=
  entries.map (fun x => l.convert x.1 x.2) = verdicts.map .ok

/-- With look-ups that never fail no entry reaches one that does. -/
theorem Lookups.not_reaches {l : Lookups} (hservice : ∀ ns name e, l.service ns name ≠ .error e)
    (hcertificate : ∀ secret e, l.certificatePath secret ≠ .error e)
    (hendpoints : ∀ service e, l.endpoints service ≠ .error e) (x : String × String)
    (e : CacheError) : ¬ l.Reaches x e := by
  rintro ⟨d, -, h⟩
  cases h with
  | service _ h => exact hservice _ _ _ h
  | certificate _ _ h => exact hcertificate _ _ h
  | endpoints _ _ h => exact hendpoints _ _ h

section Pass

variable {l : Lookups} {entries rest : List (String × String)} {verdicts : List Verdict}
  {e : CacheError}

/-- Once some entries have had their verdicts, a pass goes on with those after them. -/
theorem value_convertAll_append (h : l.Judges entries verdicts) (outcome : Outcome)
    (rest : List (String × String)) :
    (convertAll l outcome (entries ++ rest)).value
      = (convertAll l (outcome.addAll verdicts) rest).value := by
  induction entries generalizing outcome verdicts with
  | nil =>
      obtain rfl : verdicts = [] := List.map_eq_nil_iff.mp h.symm
      simp [Outcome.addAll]
  | cons x entries ih =>
      cases verdicts with
      | nil => cases h
      | cons verdict verdicts =>
          have hx : l.convert x.1 x.2 = .ok verdict := (List.cons.inj h).1
          rw [Outcome.addAll_cons, ← ih (List.cons.inj h).2, List.cons_append, convertAll, hx]
          rfl

/-- Either each entry has a verdict, or there is a first one that reaches a look-up that fails. -/
theorem judges_or_reaches (l : Lookups) (entries : List (String × String)) :
    (∃ verdicts, l.Judges entries verdicts)
      ∨ ∃ before x after verdicts e, entries = before ++ x :: after
        ∧ l.Judges before verdicts ∧ l.Reaches x e := by
  induction entries with
  | nil => exact .inl ⟨[], rfl⟩
  | cons x entries ih =>
      cases hx : l.convert x.1 x.2 with
      | error e =>
          exact .inr ⟨[], x, entries, [], e, rfl, rfl, convert_eq_error_iff.mp hx⟩
      | ok verdict =>
          have hcons : ∀ {before verdicts}, l.Judges before verdicts →
              l.Judges (x :: before) (verdict :: verdicts) := by
            intro before verdicts h
            exact List.cons_eq_cons.mpr ⟨hx, h⟩
          obtain ⟨verdicts, h⟩ | ⟨before, y, after, verdicts, e, rfl, h, hy⟩ := ih
          · exact .inl ⟨_, hcons h⟩
          · exact .inr ⟨x :: before, y, after, _, e, rfl, hcons h, hy⟩

/-- No entry with a verdict reaches a look-up that fails. -/
theorem Lookups.Judges.not_reaches (h : l.Judges entries verdicts) {x : String × String}
    (hx : x ∈ entries) (e : CacheError) : ¬ l.Reaches x e := by
  intro hreaches
  have hmem : l.convert x.1 x.2 ∈ entries.map fun x => l.convert x.1 x.2 :=
    List.mem_map_of_mem hx
  rw [show entries.map _ = _ from h, convert_eq_error_iff.mpr hreaches] at hmem
  simp at hmem

/-- If every entry has a verdict, the outcome of a pass holds the verdicts in their order, with the
backends ordered. -/
theorem value_sync_of_judges {table : TextMap String} (h : l.Judges table.entries verdicts) :
    (sync l table).value = .ok {
      backends := (verdicts.filterMap Verdict.backend?).mergeSort Backend.ordered
      skipped := verdicts.filterMap Verdict.skip? } := by
  have hall := value_convertAll_append h {} []
  rw [List.append_nil] at hall
  rw [sync, Reported.value_bind, hall]
  rfl

/-- The first entry that reaches a look-up that fails ends the pass with its error. -/
theorem value_sync_of_reaches {table : TextMap String} {x : String × String}
    (hsplit : table.entries = entries ++ x :: rest) (h : l.Judges entries verdicts)
    (hx : l.Reaches x e) : (sync l table).value = .error e := by
  have hall := value_convertAll_append h {} (x :: rest)
  rw [sync, Reported.value_bind, hsplit, hall, convertAll, convert_eq_error_iff.mpr hx]
  rfl

end Pass

/-! ### The order of backends -/

/-- Backends are ordered by name and then by port. -/
theorem Backend.ordered_iff (a b : Backend) :
    a.ordered b = true ↔ a.name < b.name ∨ a.name = b.name ∧ a.port ≤ b.port :=
  decide_eq_true_iff

/-- Of two backends one comes before the other. -/
theorem Backend.ordered_total (a b : Backend) : (a.ordered b || b.ordered a) = true := by
  rw [Bool.or_eq_true, ordered_iff, ordered_iff]
  by_cases hname : a.name = b.name
  · rcases Nat.le_total a.port b.port with hport | hport
    · exact .inl (.inr ⟨hname, hport⟩)
    · exact .inr (.inr ⟨hname.symm, hport⟩)
  · by_cases hlt : a.name < b.name
    · exact .inl (.inl hlt)
    · exact .inr (.inl (Text.lt_of_not_lt_of_ne hlt hname))

/-- The order of backends is transitive. -/
theorem Backend.ordered_trans (a b c : Backend) (hab : a.ordered b = true)
    (hbc : b.ordered c = true) : a.ordered c = true := by
  rw [ordered_iff] at hab hbc ⊢
  rcases hab with hab | ⟨hab, hport⟩
  · rcases hbc with hbc | ⟨hbc, -⟩
    · exact .inl (Text.lt_trans hab hbc)
    · exact .inl (hbc ▸ hab)
  · rcases hbc with hbc | ⟨hbc, hport'⟩
    · exact .inl (hab ▸ hbc)
    · exact .inr ⟨hab.trans hbc, Nat.le_trans hport hport'⟩

section Ordered

variable {α : Type} {le : α → α → Bool}

/-- One more element in front of a list comes, after ordering, before all that it does not have to
come after. -/
theorem mergeSort_cons_eq (trans : ∀ a b c, le a b = true → le b c = true → le a c = true)
    (total : ∀ a b, (le a b || le b a) = true) (a : α) (list : List α) :
    (a :: list).mergeSort le
      = (list.mergeSort le).filter (fun b => !le a b) ++ a :: (list.mergeSort le).filter (le a) := by
  obtain ⟨before, after, hcons, hlist, hbefore⟩ := List.mergeSort_cons trans total a list
  have hsorted := List.pairwise_mergeSort trans total (a :: list)
  rw [hcons] at hsorted
  have hafter : ∀ b ∈ after, le a b = true := fun b hb =>
    (List.pairwise_cons.1 (List.pairwise_append.1 hsorted).2.1).1 b hb
  rw [hcons, hlist, List.filter_append, List.filter_append, List.filter_eq_self.2 hbefore,
    List.filter_eq_self.2 hafter,
    List.filter_eq_nil_iff.2 fun b hb => by rw [hafter b hb]; exact Bool.false_ne_true,
    List.filter_eq_nil_iff.2 fun b hb => by
      rw [Bool.not_eq_true, ← Bool.not_eq_true']; exact hbefore b hb,
    List.append_nil, List.nil_append]

/-- A part of a list comes, after ordering, in the same order as in the whole list. -/
theorem mergeSort_sublist (trans : ∀ a b c, le a b = true → le b c = true → le a c = true)
    (total : ∀ a b, (le a b || le b a) = true) {part list : List α} (h : part.Sublist list) :
    (part.mergeSort le).Sublist (list.mergeSort le) := by
  induction h with
  | slnil => exact .refl _
  | @cons part list a _ ih =>
      obtain ⟨before, after, hcons, hlist, -⟩ := List.mergeSort_cons trans total a list
      rw [hlist] at ih
      rw [hcons]
      exact ih.trans ((List.sublist_cons_self a after).append_left before)
  | @cons_cons part list a _ ih =>
      rw [mergeSort_cons_eq trans total, mergeSort_cons_eq trans total]
      exact (ih.filter _).append ((ih.filter _).cons_cons a)

/-- Elements of which each may come before each other keep their places among each other. -/
theorem filter_mergeSort (trans : ∀ a b c, le a b = true → le b c = true → le a c = true)
    (total : ∀ a b, (le a b || le b a) = true) {p : α → Bool}
    (hp : ∀ a b, p a = true → p b = true → le a b = true) (list : List α) :
    (list.mergeSort le).filter p = list.filter p := by
  have hsorted : (list.filter p).Pairwise fun a b => le a b = true :=
    List.pairwise_of_forall_mem_list fun a ha b hb =>
      hp a b (List.mem_filter.1 ha).2 (List.mem_filter.1 hb).2
  have hsublist : (list.filter p).Sublist (list.mergeSort le) :=
    List.sublist_mergeSort trans total hsorted List.filter_sublist
  have hfilter := hsublist.filter p
  simp only [List.filter_filter, Bool.and_self] at hfilter
  exact (hfilter.eq_of_length ((List.mergeSort_perm list le).filter p).length_eq.symm).symm

end Ordered

/-! ### A pass entry by entry -/

/-- The table with one entry. -/
def single (entry : String × String) : TextMap String where
  entries := [entry]
  sorted := List.pairwise_singleton _ _

/-- The outcome of a pass in which there is one verdict. -/
def Verdict.outcome : Verdict → Outcome
  | .ok backend => { backends := [backend] }
  | .error skip => { skipped := [skip] }

/-- An outcome is put together from the outcomes that the entries have on their own. -/
structure EntryWise (l : Lookups) (entries : List (String × String)) (verdicts : List Verdict)
    (outcome : Outcome) : Prop where
  /-- In a table of its own each entry has its verdict. -/
  alone : entries.map (fun x => (sync l (single x)).value)
    = verdicts.map fun v => .ok v.outcome
  /-- The outcome has one result for each entry. -/
  count : outcome.backends.length + outcome.skipped.length = entries.length
  /-- The skips are those of the verdicts, in the order of the keys. -/
  skips : outcome.skipped = verdicts.filterMap Verdict.skip?
  /-- The backends are those of the verdicts. -/
  backends : outcome.backends.Perm (verdicts.filterMap Verdict.backend?)
  /-- They are ordered by name and then by port. -/
  ordered : outcome.backends.Pairwise fun a b => a.name < b.name ∨ a.name = b.name ∧ a.port ≤ b.port
  /-- Those with the same name and port are in the order of the keys. -/
  ties : ∀ name port, outcome.backends.filter (fun b => b.name = name ∧ b.port = port)
    = (verdicts.filterMap Verdict.backend?).filter fun b => b.name = name ∧ b.port = port

section EntryByEntry

variable {l : Lookups} {entries : List (String × String)} {verdicts : List Verdict}

/-- The pass over a table of one entry has the verdict on the entry as its outcome. -/
theorem value_sync_single {x : String × String} {verdict : Verdict}
    (hx : l.convert x.1 x.2 = .ok verdict) : (sync l (single x)).value = .ok verdict.outcome := by
  have hjudges : l.Judges (single x).entries [verdict] := congrArg (fun v => [v]) hx
  rw [value_sync_of_judges hjudges]
  cases verdict with
  | ok backend => simp [List.filterMap_cons, Verdict.backend?, Verdict.skip?, Verdict.outcome]
  | error skip => simp [List.filterMap_cons, Verdict.backend?, Verdict.skip?, Verdict.outcome]

/-- Each verdict brings one backend or one skip. -/
theorem length_filterMap_verdicts (verdicts : List Verdict) :
    (verdicts.filterMap Verdict.backend?).length + (verdicts.filterMap Verdict.skip?).length
      = verdicts.length := by
  induction verdicts with
  | nil => rfl
  | cons verdict verdicts ih =>
      cases verdict with
      | ok backend =>
          simp only [List.filterMap_cons, Verdict.backend?, Verdict.skip?, List.length_cons]
          omega
      | error skip =>
          simp only [List.filterMap_cons, Verdict.backend?, Verdict.skip?, List.length_cons]
          omega

/-- The outcome of a pass is put together from those of its entries. -/
theorem Lookups.Judges.entryWise (h : l.Judges entries verdicts) :
    EntryWise l entries verdicts {
      backends := (verdicts.filterMap Verdict.backend?).mergeSort Backend.ordered
      skipped := verdicts.filterMap Verdict.skip? } where
  alone := by
    induction entries generalizing verdicts with
    | nil => rw [List.map_eq_nil_iff.mp h.symm]; rfl
    | cons x entries ih =>
        cases verdicts with
        | nil => cases h
        | cons verdict verdicts =>
            obtain ⟨hx, hrest⟩ := List.cons.inj h
            exact List.cons_eq_cons.mpr ⟨value_sync_single hx, ih hrest⟩
  count := by
    have hlength : entries.length = verdicts.length := by simpa using congrArg List.length h
    rw [List.length_mergeSort, length_filterMap_verdicts, hlength]
  skips := rfl
  backends := List.mergeSort_perm _ _
  ordered := (List.pairwise_mergeSort Backend.ordered_trans Backend.ordered_total _).imp
    fun hab => (Backend.ordered_iff _ _).mp hab
  ties := fun name port => by
    refine filter_mergeSort Backend.ordered_trans Backend.ordered_total (fun a b ha hb => ?_) _
    obtain ⟨haname, haport⟩ := of_decide_eq_true ha
    obtain ⟨hbname, hbport⟩ := of_decide_eq_true hb
    exact (Backend.ordered_iff a b).mpr
      (.inr ⟨haname.trans hbname.symm, Nat.le_of_eq (haport.trans hbport.symm)⟩)

/-- The verdicts on a part of some entries are a part of the verdicts. -/
theorem Lookups.Judges.sublist (h : l.Judges entries verdicts) {part : List (String × String)}
    (hpart : part.Sublist entries) :
    ∃ verdicts', l.Judges part verdicts' ∧ verdicts'.Sublist verdicts := by
  induction hpart generalizing verdicts with
  | slnil => exact ⟨[], rfl, List.nil_sublist _⟩
  | cons x _ ih =>
      cases verdicts with
      | nil => cases h
      | cons verdict verdicts =>
          obtain ⟨verdicts', h', hsublist⟩ := ih (List.cons.inj h).2
          exact ⟨verdicts', h', hsublist.cons _⟩
  | cons_cons x _ ih =>
      cases verdicts with
      | nil => cases h
      | cons verdict verdicts =>
          obtain ⟨hx, hrest⟩ := List.cons.inj h
          obtain ⟨verdicts', h', hsublist⟩ := ih hrest
          exact ⟨verdict :: verdicts', List.cons_eq_cons.mpr ⟨hx, h'⟩, hsublist.cons_cons _⟩

/-- A pass with an outcome has a verdict on each entry. -/
theorem exists_judges_of_value_sync {table : TextMap String} {outcome : Outcome}
    (h : (sync l table).value = .ok outcome) : ∃ verdicts, l.Judges table.entries verdicts := by
  obtain hjudges | ⟨before, x, after, verdicts, e, hsplit, hjudges, hx⟩ :=
    judges_or_reaches l table.entries
  · exact hjudges
  · rw [value_sync_of_reaches hsplit hjudges hx] at h
    cases h

/-- With fewer entries the outcome of a pass is a part of the outcome, in the same order. -/
theorem exists_value_sync_sublist {table part : TextMap String} {outcome : Outcome}
    (h : (sync l table).value = .ok outcome) (hpart : part.entries.Sublist table.entries) :
    ∃ outcome', (sync l part).value = .ok outcome'
      ∧ outcome'.backends.Sublist outcome.backends ∧ outcome'.skipped.Sublist outcome.skipped := by
  obtain ⟨verdicts, hjudges⟩ := exists_judges_of_value_sync h
  obtain ⟨verdicts', hjudges', hsublist⟩ := hjudges.sublist hpart
  rw [value_sync_of_judges hjudges] at h
  cases h
  exact ⟨_, value_sync_of_judges hjudges',
    mergeSort_sublist Backend.ordered_trans Backend.ordered_total (hsublist.filterMap _),
    hsublist.filterMap _⟩

/-- A pass is one over the entries. If no entry reaches a look-up that fails, the pass has an
outcome, put together from those of the single entries. It fails exactly if there is an entry that
reaches one, with the error of the first. And what else is in the table, or becomes of it, makes
no difference to an entry: two tables that differ in one key have, if their passes have outcomes,
the same results for the other keys in them, in the same order. -/
theorem sync_entry_by_entry (l : Lookups) (table : TextMap String) :
    ((∀ x ∈ table.entries, ∀ e, ¬ l.Reaches x e) →
      ∃ verdicts outcome, (sync l table).value = .ok outcome
        ∧ EntryWise l table.entries verdicts outcome)
    ∧ (∀ e, (sync l table).value = .error e ↔ ∃ before x after,
        table.entries = before ++ x :: after
          ∧ (∀ y ∈ before, ∀ e', ¬ l.Reaches y e') ∧ l.Reaches x e)
    ∧ ∀ key table' outcome outcome',
        (∀ key', key' ≠ key → table'.get? key' = table.get? key') →
        (sync l table).value = .ok outcome → (sync l table').value = .ok outcome' →
        ∃ rest, (sync l (table.erase key)).value = .ok rest
          ∧ (rest.backends.Sublist outcome.backends ∧ rest.skipped.Sublist outcome.skipped)
          ∧ rest.backends.Sublist outcome'.backends ∧ rest.skipped.Sublist outcome'.skipped := by
  refine ⟨fun hnone => ?_, fun e => ⟨fun herror => ?_, ?_⟩, ?_⟩
  · obtain ⟨verdicts, hjudges⟩ | ⟨before, x, after, verdicts, e, hsplit, -, hx⟩ :=
      judges_or_reaches l table.entries
    · exact ⟨verdicts, _, value_sync_of_judges hjudges, hjudges.entryWise⟩
    · exact absurd hx (hnone x (by simp [hsplit]) e)
  · obtain ⟨verdicts, hjudges⟩ | ⟨before, x, after, verdicts, e', hsplit, hjudges, hx⟩ :=
      judges_or_reaches l table.entries
    · rw [value_sync_of_judges hjudges] at herror
      cases herror
    · rw [value_sync_of_reaches hsplit hjudges hx] at herror
      cases herror
      exact ⟨before, x, after, hsplit, fun y hy => hjudges.not_reaches hy, hx⟩
  · rintro ⟨before, x, after, hsplit, hbefore, hx⟩
    obtain ⟨verdicts, hjudges⟩ | ⟨_, y, _, _, e', rfl, -, hy⟩ := judges_or_reaches l before
    · exact value_sync_of_reaches hsplit hjudges hx
    · exact absurd hy (hbefore y (by simp) e')
  · intro key table' outcome outcome' hagree houtcome houtcome'
    obtain ⟨rest, hrest, hpart⟩ :=
      exists_value_sync_sublist houtcome (table.entries_erase_sublist key)
    obtain ⟨rest', hrest', hpart'⟩ :=
      exists_value_sync_sublist houtcome' (table'.entries_erase_sublist key)
    rw [TextMap.erase_congr hagree, hrest] at hrest'
    cases hrest'
    exact ⟨rest, hrest, hpart, hpart'⟩

end EntryByEntry

/-! ### Entries for examples -/

/-- Look-ups that find one Service and never fail. -/
def echoLookups : Lookups where
  service _ name := .ok (if name = "echo" then some { spec := some { ports := some [{ port := 80 }] } }
    else none)
  endpoints _ := .ok none
  certificatePath _ := .ok none

/-- A table with an entry that is served and one that is not. -/
def echoTable (other : String) : TextMap String where
  entries := [("8080", "default/echo:80"), ("9090", other)]
  sorted := List.pairwise_pair.mpr (show "8080" < "9090" by decide +kernel)

/-- The backend of the entry that is served. -/
def echoBackend : Backend where
  name := "default_echo"
  port := 8080
  endpoints := []

/-- The verdict on the entry that is served goes with any verdict on the other. -/
theorem value_sync_echoTable {other : String} {skip : Skip}
    (h : echoLookups.convert "9090" other = .ok (.error skip)) :
    (sync echoLookups (echoTable other)).value
      = .ok { backends := [echoBackend], skipped := [skip] } := by
  have hecho : echoLookups.convert "8080" "default/echo:80" = .ok (.ok echoBackend) := by
    decide +kernel
  have hjudges : echoLookups.Judges (echoTable other).entries [.ok echoBackend, .error skip] :=
    List.cons_eq_cons.mpr ⟨hecho, List.cons_eq_cons.mpr ⟨h, rfl⟩⟩
  rw [value_sync_of_judges hjudges]
  simp [List.filterMap_cons, Verdict.backend?, Verdict.skip?]

/-- A Service that is not there makes no difference to the entry beside it, nor does a directive
that names none, and a failing look-up of Services ends the pass at the first entry. -/
theorem sync_echoTable :
    (∃ verdicts outcome, (sync echoLookups (echoTable "default/gone:80")).value = .ok outcome
      ∧ EntryWise echoLookups (echoTable "default/gone:80").entries verdicts outcome)
    ∧ (∃ rest, (sync echoLookups ((echoTable "default/gone:80").erase "9090")).value = .ok rest
      ∧ (rest.backends.Sublist [echoBackend]
        ∧ rest.skipped.Sublist [.serviceNotFound 9090 "default/gone"])
      ∧ rest.backends.Sublist [echoBackend] ∧ rest.skipped.Sublist [.emptyServiceName 9090])
    ∧ (sync (echoLookups.failing ⟨"service", "down"⟩) (echoTable "default/gone:80")).value
      = .error ⟨"service", "down"⟩ := by
  have hnone : ∀ x e, ¬ echoLookups.Reaches x e :=
    Lookups.not_reaches (by simp [echoLookups]) (by simp [echoLookups]) (by simp [echoLookups])
  have hagree : ∀ key, key ≠ "9090" →
      (echoTable ":").get? key = (echoTable "default/gone:80").get? key := by
    intro key hkey
    simp [echoTable, TextMap.get?, TextMap.lookup, Ne.symm hkey]
  have hreaches : (echoLookups.failing ⟨"service", "down"⟩).Reaches ("8080", "default/echo:80")
      ⟨"service", "down"⟩ := convert_eq_error_iff.mp (by decide +kernel)
  refine ⟨(sync_entry_by_entry echoLookups (echoTable "default/gone:80")).1 fun x _ => hnone x,
    (sync_entry_by_entry echoLookups (echoTable "default/gone:80")).2.2 "9090" (echoTable ":") _ _
      hagree (value_sync_echoTable (by decide +kernel)) (value_sync_echoTable (by decide +kernel)),
    ((sync_entry_by_entry _ (echoTable "default/gone:80")).2.1 _).mpr
      ⟨[], ("8080", "default/echo:80"), _, rfl, by simp, hreaches⟩⟩

end IngressController.TcpService
