import IngressController.Configuration
import IngressController.Proofs.Annotations.Degraded
import IngressController.Proofs.Text.Map

/-!
# `IngressController.Proofs.Configuration.Passes`: what a kept configuration says about each key

Under the key of an Ingress a configuration keeps the version that has been resolved and whether
that version turned out degraded. Both go back to one earlier pass, the last one in which the
Ingress was resolved, and say what was true of the Ingress and the stores as they were then.

* `Resolution` and `lastResolution`: which Ingress and which stores what is kept goes back to.
* `Records`: what is kept under a key goes back to a resolution. `Records.resolve` is the step from
  one Ingress to the next, `Records.resolveAll` a whole pass through them.
* `Mirrors.refresh`: a pass keeps what is kept going back to the last resolutions, and
  `mirrors_afterPasses`: so do any passes, whatever happens to the stores between them.
-/

set_option autoImplicit false

namespace IngressController

open Object Annotations

/-! ### The sources in the stores -/

namespace Sources

/-- The data of the default backend as they are in the stores, if there is a config map for them. -/
def backendData (sources : Sources) (stores : Stores) : Option (TextMap String) :=
  sources.defaultBackend.map fun reference => (stores.configMapData? reference).getD ∅

/-- The default backend with some data. -/
def backendOf : Option (TextMap String) → DefaultBackend
  | none => {}
  | some data => (DefaultBackend.ofData data).value

/-- What an Ingress is resolved against, as it is in the stores. -/
def surroundings (sources : Sources) (stores : Stores) : Surroundings where
  backend := backendOf (sources.backendData stores)
  certificate? := stores.authority?

/-- The managed Ingresses in the stores. -/
def managed (sources : Sources) (stores : Stores) : List Ingress :=
  stores.ingresses.objects.filter sources.manages

/-- The managed Ingresses in the stores that have a key. -/
def managedAs (sources : Sources) (stores : Stores) (key : String) : List Ingress :=
  (sources.managed stores).filter fun ing => ing.metadata.key = key

end Sources

/-- Of Ingresses with distinct keys one is alone with its key. -/
theorem filter_key_eq {ings : List Ingress} {ing : Ingress}
    (h : ings.Pairwise fun a b => a.metadata.key ≠ b.metadata.key) (hing : ing ∈ ings) :
    (ings.filter fun a => a.metadata.key = ing.metadata.key) = [ing] := by
  induction ings with
  | nil => cases hing
  | cons first rest ih =>
      obtain ⟨hfirst, hrest⟩ := List.pairwise_cons.mp h
      rcases List.mem_cons.mp hing with rfl | hing
      · rw [List.filter_cons_of_pos (by simp), List.filter_eq_nil_iff.mpr]
        intro a ha
        simpa using (hfirst a ha).symm
      · rw [List.filter_cons_of_neg (by simpa using hfirst ing hing)]
        exact ih hrest hing

/-! ### Resolutions -/

/-- An Ingress that has been resolved, and the stores in which it was. -/
structure Resolution where
  ing : Ingress
  stores : Stores

/-- The version of an Ingress that has been resolved. -/
def Resolution.version (r : Resolution) : String :=
  Configuration.versionOf r.ing

/-- Whether the Ingress turned out degraded. -/
def Resolution.isDegraded (sources : Sources) (r : Resolution) : Bool :=
  (extract (sources.surroundings r.stores) r.ing).value.isDegraded

/-- A resolution after one more Ingress with its key: it is kept if the version is the same. -/
def renew (now : Stores) (kept : Option Resolution) (ing : Ingress) : Option Resolution :=
  if kept.map Resolution.version = some (Configuration.versionOf ing) then kept
  else some { ing, stores := now }

/-- The resolution that what is kept under a key goes back to, after passes in some stores, the
last of them first. All of them are made anew when the data of the default backend change. -/
def lastResolution (sources : Sources) (key : String) : List Stores → Option Resolution
  | [] => none
  | now :: before =>
    if sources.managedAs now key = [] then none
    else
      let kept := if before.head?.bind sources.backendData = sources.backendData now
        then lastResolution sources key before else none
      (sources.managedAs now key).foldl (renew now) kept

/-- What is kept under a key goes back to a resolution, if there is one. -/
structure Records (sources : Sources) (c : Configuration) (key : String)
    (r? : Option Resolution) : Prop where
  version : c.resolved.get? key = r?.map Resolution.version
  degraded : ∀ r, r? = some r → c.degraded.contains key = r.isDegraded sources

namespace Configuration

variable {sources : Sources} {stores : Stores} {c : Configuration}

/-! ### One Ingress after the other -/

/-- After a key has been marked, it is in the set exactly if it has been marked as degraded, and
nothing else has changed. -/
theorem value_markDegraded (key : String) (isDegraded : Bool) (c : Configuration) :
    ∃ degraded, (c.markDegraded key isDegraded).value = { c with degraded }
      ∧ degraded.contains key = isDegraded
      ∧ ∀ key', key' ≠ key → degraded.contains key' = c.degraded.contains key' := by
  rw [markDegraded]
  cases isDegraded with
  | true =>
      rw [if_pos rfl]
      split
      · next hin => exact ⟨c.degraded, rfl, hin, fun _ _ => rfl⟩
      · refine ⟨c.degraded.add key, rfl, (TextSet.contains_add ..).mpr (.inl rfl), fun key' hne => ?_⟩
        rw [Bool.eq_iff_iff, TextSet.contains_add, or_iff_right (Ne.symm hne)]
  | false =>
      rw [if_neg Bool.false_ne_true]
      split
      · refine ⟨c.degraded.erase key, rfl, ?_, fun key' hne => ?_⟩
        · rw [← Bool.not_eq_true, TextSet.contains_erase]
          exact fun h => h.1 rfl
        · rw [Bool.eq_iff_iff, TextSet.contains_erase, and_iff_right (Ne.symm hne)]
      · next hout => exact ⟨c.degraded, rfl, eq_false_of_ne_true hout, fun _ _ => rfl⟩

/-- Either the version of an Ingress has been resolved and nothing changes, or what is kept under its
key is what is found now. -/
theorem resolve_cases (stores : Stores) (c : Configuration) (ing : Ingress) :
    c.resolved.get? ing.metadata.key = some (versionOf ing) ∧ (c.resolve stores ing).value = c
      ∨ c.resolved.get? ing.metadata.key ≠ some (versionOf ing) ∧ ∃ degraded,
        (c.resolve stores ing).value
          = { c with
              resolved := c.resolved.insert ing.metadata.key (versionOf ing)
              degraded }
        ∧ degraded.contains ing.metadata.key
          = (extract (Configuration.surroundings stores c) ing).value.isDegraded
        ∧ ∀ key, key ≠ ing.metadata.key → degraded.contains key = c.degraded.contains key := by
  rw [resolve]
  split
  · next hsame => exact .inl ⟨hsame, rfl⟩
  · next hnew =>
      obtain ⟨degraded, hmark, hkey, hother⟩ := c.value_markDegraded ing.metadata.key
        (extract (Configuration.surroundings stores c) ing).value.isDegraded
      refine .inr ⟨hnew, degraded, ?_, hkey, hother⟩
      rw [Reported.value_bind, Reported.value_bind, hmark]
      rfl

/-- Resolving an Ingress leaves everything but what is kept under keys. -/
theorem value_resolve (stores : Stores) (c : Configuration) (ing : Ingress) :
    ∃ resolved degraded, (c.resolve stores ing).value = { c with resolved, degraded } := by
  obtain ⟨-, hvalue⟩ | ⟨-, degraded, hvalue, -⟩ := resolve_cases stores c ing
  · exact ⟨_, _, hvalue⟩
  · exact ⟨_, _, hvalue⟩

/-- Resolving some Ingresses leaves everything but what is kept under keys. -/
theorem value_resolveAll (stores : Stores) (c : Configuration) (ings : List Ingress) :
    ∃ resolved degraded,
      (ings.foldlM (resolve stores) c).value = { c with resolved, degraded } := by
  induction ings generalizing c with
  | nil => exact ⟨_, _, rfl⟩
  | cons ing ings ih =>
      obtain ⟨resolved, degraded, hfirst⟩ := value_resolve stores c ing
      obtain ⟨resolved', degraded', hrest⟩ := ih (c.resolve stores ing).value
      rw [List.foldlM_cons, Reported.value_bind, hrest, hfirst]
      exact ⟨_, _, rfl⟩

/-- Resolving the annotations leaves everything but what is kept under keys. -/
theorem value_resolveAnnotations (sources : Sources) (stores : Stores) (c : Configuration) :
    ∃ resolved degraded,
      (c.resolveAnnotations sources stores).value = { c with resolved, degraded } := by
  obtain ⟨resolved, degraded, hvalue⟩ := value_resolveAll stores c (sources.managed stores)
  rw [Sources.managed] at hvalue
  rw [resolveAnnotations, Reported.value_bind, hvalue]
  exact ⟨_, _, rfl⟩

end Configuration

section Records

variable {sources : Sources} {stores : Stores} {c : Configuration} {key : String}
  {r? : Option Resolution}

/-- One more Ingress renews the resolution of its own key. -/
theorem Records.resolve (h : Records sources c key r?)
    (hbackend : c.defaultBackend = Sources.backendOf (sources.backendData stores))
    (ing : Ingress) :
    Records sources (c.resolve stores ing).value key
      (if ing.metadata.key = key then renew stores r? ing else r?) := by
  have hsurroundings : Configuration.surroundings stores c = sources.surroundings stores := by
    rw [Configuration.surroundings, hbackend, Sources.surroundings]
  obtain ⟨hsame, hvalue⟩ | ⟨hnew, degraded, hvalue, hkey, hother⟩ :=
    Configuration.resolve_cases stores c ing
  · rw [hvalue]
    split
    · next heq =>
        rw [heq, h.version] at hsame
        rw [renew, if_pos hsame]
        exact h
    · exact h
  · rw [hvalue]
    split
    · next heq =>
        subst heq
        rw [h.version] at hnew
        rw [renew, if_neg hnew]
        refine ⟨?_, ?_⟩
        · rw [TextMap.get?_insert, if_pos rfl]
          rfl
        · rintro r ⟨⟩
          rw [hkey, hsurroundings]
          rfl
    · next hne =>
        refine ⟨?_, fun r hr => ?_⟩
        · rw [TextMap.get?_insert, if_neg hne]
          exact h.version
        · rw [hother key (Ne.symm hne)]
          exact h.degraded r hr

/-- A pass through some Ingresses renews the resolution of a key by those that have it. -/
theorem Records.resolveAll (h : Records sources c key r?)
    (hbackend : c.defaultBackend = Sources.backendOf (sources.backendData stores))
    (ings : List Ingress) :
    Records sources (ings.foldlM (Configuration.resolve stores) c).value key
      ((ings.filter fun ing => ing.metadata.key = key).foldl (renew stores) r?) := by
  induction ings generalizing c r? with
  | nil => exact h
  | cons ing ings ih =>
      have hkept : (c.resolve stores ing).value.defaultBackend = c.defaultBackend := by
        obtain ⟨resolved, degraded, hvalue⟩ := Configuration.value_resolve stores c ing
        rw [hvalue]
      have hnext := ih (h.resolve hbackend ing) (hkept.trans hbackend)
      rw [List.foldlM_cons, Reported.value_bind, List.filter_cons]
      by_cases heq : ing.metadata.key = key
      · rw [if_pos heq] at hnext
        rw [if_pos (decide_eq_true heq), List.foldl_cons]
        exact hnext
      · rw [if_neg heq] at hnext
        rw [if_neg (by simpa using heq)]
        exact hnext

end Records

/-! ### Keys without a resolution -/

/-- After an Ingress, its version has been resolved. -/
theorem version_renew (now : Stores) (kept : Option Resolution) (ing : Ingress) :
    (renew now kept ing).map Resolution.version = some (Configuration.versionOf ing) := by
  rw [renew]
  split
  · next hsame => exact hsame
  · rfl

/-- After a pass the version under a key is that of the managed Ingress with the key, of the last
one if there are several. -/
theorem version_lastResolution {sources : Sources} {key : String} (now : Stores)
    (before : List Stores) :
    (lastResolution sources key (now :: before)).map Resolution.version
      = (sources.managedAs now key).getLast?.map Configuration.versionOf := by
  rw [lastResolution]
  obtain hnone | ⟨ings, last, hings⟩ := List.eq_nil_or_concat (sources.managedAs now key)
  · rw [if_pos hnone, hnone]
    rfl
  · rw [List.concat_eq_append] at hings
    rw [hings, if_neg (List.append_ne_nil_of_right_ne_nil _ (List.cons_ne_nil _ _)),
      List.foldl_append, List.getLast?_concat]
    exact version_renew now _ last

/-- After a pass exactly the keys without a managed Ingress have no resolution. -/
theorem lastResolution_eq_none_iff {sources : Sources} {key : String} (now : Stores)
    (before : List Stores) :
    lastResolution sources key (now :: before) = none ↔ sources.managedAs now key = [] := by
  rw [← Option.map_eq_none_iff (f := Resolution.version), version_lastResolution,
    Option.map_eq_none_iff, List.getLast?_eq_none_iff]

/-! ### Whole passes -/

/-- What is kept after passes in some stores, the last of them first. -/
structure Mirrors (sources : Sources) (passes : List Stores) (c : Configuration) : Prop where
  /-- The default backend is that of the last pass. -/
  backend : c.defaultBackend = Sources.backendOf (passes.head?.bind sources.backendData)
  backendData : c.backendData = passes.head?.bind sources.backendData
  /-- What is kept under a key goes back to its last resolution. -/
  records : ∀ key, Records sources c key (lastResolution sources key passes)
  /-- Nothing is kept under other keys. -/
  dropped : ∀ key, lastResolution sources key passes = none → c.degraded.contains key = false

section Mirrors

variable {sources : Sources} {now : Stores} {passes : List Stores} {c : Configuration}

/-- A key is degraded exactly if its Ingress was at its last resolution. -/
theorem Mirrors.contains_degraded_iff (h : Mirrors sources passes c) (key : String) :
    c.degraded.contains key = true
      ↔ ∃ r, lastResolution sources key passes = some r ∧ r.isDegraded sources = true := by
  cases hlast : lastResolution sources key passes with
  | none => simp [h.dropped key hlast]
  | some r => simp [(h.records key).degraded r hlast]

/-- Before the first pass nothing is kept. -/
theorem mirrors_nil : Mirrors sources [] {} where
  backend := rfl
  backendData := rfl
  records _ := ⟨rfl, fun _ h => by cases h⟩
  dropped _ _ := rfl

/-- The default backend is taken over if its data have changed, and then all versions are dropped. -/
theorem Mirrors.value_refreshDefaultBackend (h : Mirrors sources passes c) (now : Stores) :
    (c.refreshDefaultBackend sources now).value
      = if passes.head?.bind sources.backendData = sources.backendData now then c
        else { c with
          defaultBackend := Sources.backendOf (sources.backendData now)
          backendData := sources.backendData now
          resolved := ∅ } := by
  rw [← h.backendData, Configuration.refreshDefaultBackend]
  cases hreference : sources.defaultBackend with
  | none =>
      have hnone : ∀ stores, sources.backendData stores = none := by
        intro stores
        rw [Sources.backendData, hreference]
        rfl
      have hkept : c.backendData = none := by
        rw [h.backendData]
        cases passes with
        | nil => rfl
        | cons stores before => exact hnone stores
      rw [if_pos (hkept.trans (hnone now).symm)]
      rfl
  | some reference =>
      have hdata : sources.backendData now = some ((now.configMapData? reference).getD ∅) := by
        rw [Sources.backendData, hreference]
        rfl
      rw [hdata]
      show (if _ then _ else _ : Reported Configuration).value = _
      split
      · rfl
      · rfl

/-- After the default backend has been refreshed, what is kept under a key goes back to its last
resolution unless all versions have been dropped. -/
theorem Mirrors.refreshDefaultBackend (h : Mirrors sources passes c) (now : Stores) :
    (c.refreshDefaultBackend sources now).value.defaultBackend
        = Sources.backendOf (sources.backendData now)
      ∧ (c.refreshDefaultBackend sources now).value.backendData = sources.backendData now
      ∧ ∀ key, Records sources (c.refreshDefaultBackend sources now).value key
        (if passes.head?.bind sources.backendData = sources.backendData now
          then lastResolution sources key passes else none) := by
  rw [h.value_refreshDefaultBackend]
  split
  · next hsame => exact ⟨hsame ▸ h.backend, hsame ▸ h.backendData, h.records⟩
  · exact ⟨rfl, rfl, fun key => ⟨rfl, fun _ hr => by cases hr⟩⟩

/-- Refreshing the TCP services leaves everything but their backends. -/
theorem value_refreshTcpServices (sources : Sources) (now : Stores) (c : Configuration) :
    ∃ tcpBackends, (c.refreshTcpServices sources now).value = { c with tcpBackends } := by
  rw [Configuration.refreshTcpServices]
  split
  · exact ⟨c.tcpBackends, rfl⟩
  · next reference _ =>
      rw [Reported.value_bind]
      split
      · exact ⟨c.tcpBackends, rfl⟩
      · next outcome _ =>
          split
          · exact ⟨c.tcpBackends, rfl⟩
          · exact ⟨outcome.backends, rfl⟩

/-- There is an Ingress under a key exactly if the key is among the keys of the managed ones. -/
theorem contains_managed_iff (sources : Sources) (now : Stores) (key : String) :
    (TextSet.ofTexts ((sources.managed now).map (·.metadata.key))).contains key = true
      ↔ sources.managedAs now key ≠ [] := by
  rw [TextSet.contains_ofTexts, List.mem_map, Sources.managedAs, Ne, List.filter_eq_nil_iff]
  simp

/-- Keeping only some keys keeps what goes back to a resolution under these. -/
theorem Records.filter {key : String} {r? : Option Resolution} (h : Records sources c key r?)
    (keys : TextSet) :
    Records sources { c with
        resolved := c.resolved.filter fun key _ => keys.contains key
        degraded := c.degraded.filter fun key _ => keys.contains key } key
        (if keys.contains key = true then r? else none)
      ∧ (keys.contains key = false →
        (TextMap.filter c.degraded fun key _ => keys.contains key).contains key = false) := by
  have hdegraded := TextSet.contains_filter c.degraded keys.contains key
  cases hin : keys.contains key with
  | true =>
      refine ⟨⟨?_, fun r hr => ?_⟩, fun hout => by cases hout⟩
      · rw [TextMap.get?_filter, hin, h.version, if_pos rfl]
        cases r? <;> rfl
      · rw [Bool.eq_iff_iff, hdegraded, and_iff_left hin, h.degraded r hr]
  | false =>
      refine ⟨⟨?_, fun r hr => by cases hr⟩, fun _ => ?_⟩
      · rw [TextMap.get?_filter, hin, if_neg Bool.false_ne_true]
        cases c.resolved.get? key <;> rfl
      · rw [← Bool.not_eq_true, hdegraded, hin]
        exact fun hboth => Bool.false_ne_true hboth.2

/-- Resolving the annotations renews what is kept under the keys of managed Ingresses and drops what
is kept under others. -/
theorem Records.resolveAnnotations {key : String} {kept : Option Resolution}
    (h : Records sources c key kept) (now : Stores)
    (hbackend : c.defaultBackend = Sources.backendOf (sources.backendData now)) :
    Records sources (c.resolveAnnotations sources now).value key
        (if sources.managedAs now key = [] then none
          else (sources.managedAs now key).foldl (renew now) kept)
      ∧ (sources.managedAs now key = [] →
        (c.resolveAnnotations sources now).value.degraded.contains key = false) := by
  have hkeys := contains_managed_iff sources now key
  obtain ⟨hrecords, hdropped⟩ := (h.resolveAll hbackend (sources.managed now)).filter
    (TextSet.ofTexts ((sources.managed now).map (·.metadata.key)))
  by_cases hnone : sources.managedAs now key = []
  · have hout := eq_false_of_ne_true fun hin => hkeys.mp hin hnone
    rw [hout, if_neg Bool.false_ne_true] at hrecords
    rw [if_pos hnone]
    exact ⟨hrecords, fun _ => hdropped hout⟩
  · rw [if_pos (hkeys.mpr hnone)] at hrecords
    rw [if_neg hnone]
    exact ⟨hrecords, fun habsent => absurd habsent hnone⟩

/-- A pass keeps what is kept going back to the last resolutions. -/
theorem Mirrors.refresh (h : Mirrors sources passes c) (now : Stores) :
    Mirrors sources (now :: passes) (c.refresh sources now).value := by
  obtain ⟨hbackend, hdata, hrecords⟩ := h.refreshDefaultBackend now
  obtain ⟨tcpBackends, htcp⟩ :=
    value_refreshTcpServices sources now (c.refreshDefaultBackend sources now).value
  have hrefresh : (c.refresh sources now).value
      = (Configuration.resolveAnnotations sources now
        { (c.refreshDefaultBackend sources now).value with tcpBackends }).value := by
    rw [Configuration.refresh, Reported.value_bind, Reported.value_bind, htcp]
  have hresolved := fun key => Records.resolveAnnotations
    (c := { (c.refreshDefaultBackend sources now).value with tcpBackends })
    ⟨(hrecords key).version, (hrecords key).degraded⟩ now hbackend
  obtain ⟨resolved, degraded, hvalue⟩ := Configuration.value_resolveAnnotations sources now
    { (c.refreshDefaultBackend sources now).value with tcpBackends }
  rw [hrefresh]
  refine ⟨?_, ?_, fun key => (hresolved key).1,
    fun key hnone => (hresolved key).2 ((lastResolution_eq_none_iff now passes).mp hnone)⟩
  · rw [hvalue]
    exact hbackend
  · rw [hvalue]
    exact hdata

end Mirrors

/-- The configuration after passes in some stores, the last of them first. Between two passes
anything may have happened to the stores. -/
def Configuration.afterPasses (sources : Sources) : List Stores → Configuration
  | [] => {}
  | now :: before => ((afterPasses sources before).refresh sources now).value

/-- After any passes, what is kept goes back to the last resolutions. -/
theorem mirrors_afterPasses (sources : Sources) (passes : List Stores) :
    Mirrors sources passes (Configuration.afterPasses sources passes) := by
  induction passes with
  | nil => exact mirrors_nil
  | cons now before ih => exact ih.refresh now

end IngressController
