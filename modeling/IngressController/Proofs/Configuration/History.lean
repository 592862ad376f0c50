import IngressController.Proofs.Configuration.Passes
import IngressController.Proofs.Stores

/-!
# `IngressController.Proofs.Configuration.History`: which changes a kept configuration misses

An Ingress is resolved again when its version has changed or the data of the default backend have,
but what it is resolved against includes the secrets too. So the set of degraded Ingresses is what
it would be if all of them were resolved anew, unless a secret has come or gone, or its authority
has, since an Ingress was resolved of which it alone decides whether it is degraded. Such an
Ingress stays as it was found, however many passes follow.

* `Event` and `History`: what happens to the stores, and the passes in between, in any order.
* `History.IsExact`: the degraded keys are those that a resolution of all Ingresses would give.
* `History.IsStale`: a secret has changed under an Ingress that hangs on it.
* `isExact_iff_of_lawful`: after a pass the degraded keys are exact unless an Ingress is stale.
-/

set_option autoImplicit false

namespace IngressController

open Object Annotations

/-! ### What happens to the stores, and when passes are made -/

/-- Something that happens to a kept configuration and the stores that it is kept from. -/
inductive Event where
  /-- An object has been added or changed. -/
  | apply (o : AnyObject)
  | delete (o : AnyObject)
  /-- All stores have been filled once. -/
  | synced
  /-- A pass is made. -/
  | refresh

/-- The Ingress that has been added or changed. -/
def Event.ingress? : Event → Option Ingress
  | apply (.ingress ing) => some ing
  | _ => none

/-- A kept configuration, the stores that it is kept from, and the stores as they were at each of
the passes so far, the last of them first. -/
structure History where
  stores : Stores := {}
  configuration : Configuration := {}
  passes : List Stores := []

namespace History

/-- What becomes of a history. -/
def meet (sources : Sources) (h : History) : Event → History
  | .apply o => { h with stores := h.stores.apply o }
  | .delete o => { h with stores := h.stores.delete o }
  | .synced => { h with stores := { h.stores with synced := true } }
  | .refresh => { h with
      configuration := (h.configuration.refresh sources h.stores).value
      passes := h.stores :: h.passes }

/-- The history of some events, with certificate files in a directory. -/
def after (sources : Sources) (sslDir : String) (events : List Event) : History :=
  events.foldl (meet sources) { stores := { sslDir } }

/-- The degraded keys are those of the managed Ingresses that would be degraded if all of them were
resolved now. -/
def IsExact (sources : Sources) (h : History) : Prop :=
  ∀ key, h.configuration.degraded.contains key = true ↔
    ∃ ing ∈ sources.managed h.stores, ing.metadata.key = key
      ∧ (extract (Configuration.surroundings h.stores h.configuration) ing).value.isDegraded = true

/-- Since an Ingress was resolved it has changed whether a secret that it hangs on holds an
authority. -/
structure IsStale (sources : Sources) (h : History) (ing : Ingress) (secret : String) : Prop where
  managed : ing ∈ sources.managed h.stores
  hangsOn : HangsOn h.configuration.defaultBackend ing secret
  changed : ∃ r, lastResolution sources ing.metadata.key h.passes = some r
    ∧ (r.stores.authority? secret).isSome ≠ (h.stores.authority? secret).isSome

end History

/-- The assumptions on the Ingresses in some events, as the API server warrants them:

- `named`: they are in namespaces, whose names have no slash;
- `versions`: with every change of an Ingress its version changes. -/
structure Lawful (events : List Event) : Prop where
  named : ∀ e ∈ events, ∀ ing, e.ingress? = some ing → ing.metadata.IsNamed
  versions : ∀ e ∈ events, ∀ e' ∈ events, ∀ ing ing', e.ingress? = some ing →
    e'.ingress? = some ing' → ing.metadata.sameObject ing'.metadata = true →
    Configuration.versionOf ing = Configuration.versionOf ing' → ing = ing'

/-! ### Where a resolution comes from -/

section Resolution

variable {sources : Sources} {now : Stores} {key : String} {r : Resolution}

/-- What holds of a resolution and of all Ingresses that may take its place holds of the one that
it becomes. -/
theorem renewAll_invariant {P : Resolution → Prop} {ings : List Ingress} {kept : Option Resolution}
    (hkept : ∀ r, kept = some r → P r) (hnew : ∀ ing ∈ ings, P { ing, stores := now })
    (h : ings.foldl (renew now) kept = some r) : P r := by
  induction ings generalizing kept with
  | nil => exact hkept r h
  | cons ing ings ih =>
      refine ih (fun r hr => ?_) (fun ing' hing' => hnew ing' (List.mem_cons_of_mem _ hing')) h
      rw [renew] at hr
      split at hr
      · exact hkept r hr
      · cases hr
        exact hnew ing (List.mem_cons_self ..)

/-- A last resolution was made at one of the passes, of an Ingress that was managed then, with the
default backend of the last pass. -/
theorem lastResolution_sound {passes : List Stores}
    (h : lastResolution sources key passes = some r) :
    r.stores ∈ passes ∧ r.ing ∈ sources.managedAs r.stores key
      ∧ sources.backendData r.stores = passes.head?.bind sources.backendData := by
  induction passes generalizing r with
  | nil => cases h
  | cons now before ih =>
      rw [lastResolution] at h
      split at h
      · cases h
      · refine renewAll_invariant (P := fun r => r.stores ∈ now :: before
          ∧ r.ing ∈ sources.managedAs r.stores key
          ∧ sources.backendData r.stores = sources.backendData now) (fun r hr => ?_)
          (fun ing hing => ⟨List.mem_cons_self .., hing, rfl⟩) h
        -- What is kept from before is kept because the default backend is the same.
        split at hr
        · next hsame =>
            obtain ⟨hpass, hmanaged, hdata⟩ := ih hr
            exact ⟨List.mem_cons_of_mem _ hpass, hmanaged, hdata.trans hsame⟩
        · cases hr

end Resolution

/-! ### What holds throughout a history -/

/-- In the stores of a history, and at each of its passes, each Ingress is there once, and all of
them satisfy `P`. -/
def History.Holds (P : Ingress → Prop) (h : History) : Prop :=
  ∀ stores ∈ h.stores :: h.passes, stores.ingresses.Separate (·.metadata)
    ∧ ∀ ing ∈ stores.ingresses.objects, P ing

section Holds

variable {P : Ingress → Prop} {sources : Sources} {h : History}

/-- An event keeps what holds of Ingresses, if it holds of the one that it brings. -/
theorem History.Holds.meet (hholds : h.Holds P) {e : Event}
    (he : ∀ ing, e.ingress? = some ing → P ing) : (h.meet sources e).Holds P := by
  obtain ⟨hnow, hpasses⟩ := List.forall_mem_cons.mp hholds
  cases e with
  | refresh => exact List.forall_mem_cons.mpr ⟨hnow, hholds⟩
  | synced => exact List.forall_mem_cons.mpr ⟨hnow, hpasses⟩
  | apply o =>
      refine List.forall_mem_cons.mpr ⟨?_, hpasses⟩
      cases o with
      | ingress ing =>
          refine ⟨hnow.1.apply ing, fun ing' hing' => ?_⟩
          rcases Store.mem_replaceOrAdd hing' with rfl | hold
          · exact he _ rfl
          · exact hnow.2 ing' hold
      | _ => exact hnow
  | delete o =>
      refine List.forall_mem_cons.mpr ⟨?_, hpasses⟩
      cases o with
      | ingress ing =>
          exact ⟨hnow.1.delete ing, fun ing' hing' => hnow.2 ing' (List.mem_filter.mp hing').1⟩
      | _ => exact hnow

/-- An event keeps what is kept going back to the last resolutions. -/
theorem Mirrors.meet (hmirrors : Mirrors sources h.passes h.configuration) (e : Event) :
    Mirrors sources (h.meet sources e).passes (h.meet sources e).configuration := by
  cases e with
  | refresh => exact hmirrors.refresh h.stores
  | _ => exact hmirrors

/-- What holds of the Ingresses that the events bring holds throughout their history, and what is
kept goes back to the last resolutions. -/
theorem History.holds_after (sources : Sources) (sslDir : String) {events : List Event}
    (hevents : ∀ e ∈ events, ∀ ing, e.ingress? = some ing → P ing) :
    (after sources sslDir events).Holds P
      ∧ Mirrors sources (after sources sslDir events).passes
        (after sources sslDir events).configuration := by
  have hall : ∀ (events : List Event) (h : History),
      (∀ e ∈ events, ∀ ing, e.ingress? = some ing → P ing) → h.Holds P →
      Mirrors sources h.passes h.configuration →
      (events.foldl (History.meet sources) h).Holds P
        ∧ Mirrors sources (events.foldl (History.meet sources) h).passes
          (events.foldl (History.meet sources) h).configuration := by
    intro events
    induction events with
    | nil => exact fun h _ hholds hmirrors => ⟨hholds, hmirrors⟩
    | cons e events ih =>
        intro h hevents hholds hmirrors
        obtain ⟨he, hrest⟩ := List.forall_mem_cons.mp hevents
        exact ih (h.meet sources e) hrest (hholds.meet he) (hmirrors.meet e)
  refine hall events _ hevents ?_ mirrors_nil
  intro stores hstores
  rw [List.mem_singleton.mp hstores]
  exact ⟨List.Pairwise.nil, fun ing hing => by cases hing⟩

end Holds

/-! ### Exact or stale -/

section Exact

variable {sources : Sources} {events : List Event} {before : History}

/-- Some event brought an Ingress. -/
def IsBroughtBy (events : List Event) (ing : Ingress) : Prop :=
  ∃ e ∈ events, e.ingress? = some ing

variable (hlawful : Lawful events) (hholds : before.Holds (IsBroughtBy events))

include hlawful hholds in
/-- A managed Ingress is the only one with its key. -/
theorem managedAs_key {ing : Ingress} (hing : ing ∈ sources.managed before.stores) :
    sources.managedAs before.stores ing.metadata.key = [ing] := by
  obtain ⟨hseparate, hbrought⟩ := hholds before.stores (List.mem_cons_self ..)
  have hnamed : ∀ ing ∈ before.stores.ingresses.objects, ing.metadata.IsNamed := by
    intro ing hstored
    obtain ⟨e, he, hbrings⟩ := hbrought ing hstored
    exact hlawful.named e he ing hbrings
  exact filter_key_eq ((hseparate.pairwise_key_ne hnamed).filter _) hing

include hlawful hholds in
/-- What holds of some managed Ingress with the key of one holds of that one. -/
theorem exists_managed_iff {ing : Ingress} (hing : ing ∈ sources.managed before.stores)
    (p : Ingress → Prop) :
    (∃ ing' ∈ sources.managed before.stores, ing'.metadata.key = ing.metadata.key ∧ p ing')
      ↔ p ing := by
  refine ⟨?_, fun h => ⟨ing, hing, rfl, h⟩⟩
  rintro ⟨ing', hing', hkey, h⟩
  have hboth : ing' ∈ sources.managedAs before.stores ing.metadata.key :=
    List.mem_filter.mpr ⟨hing', decide_eq_true hkey⟩
  rw [managedAs_key hlawful hholds hing, List.mem_singleton] at hboth
  rwa [hboth] at h

include hlawful hholds in
/-- After a pass the last resolution of a managed Ingress was made of that very Ingress, with the
default backend as it is. -/
theorem exists_lastResolution {ing : Ingress} (hing : ing ∈ sources.managed before.stores) :
    ∃ stores, lastResolution sources ing.metadata.key (before.stores :: before.passes)
        = some { ing, stores }
      ∧ sources.backendData stores = sources.backendData before.stores := by
  have halone := managedAs_key hlawful hholds hing
  -- Whatever is kept from before, it has the version of the Ingress afterwards.
  obtain ⟨kept, hlast⟩ : ∃ kept, lastResolution sources ing.metadata.key
      (before.stores :: before.passes) = renew before.stores kept ing := by
    rw [lastResolution, halone, if_neg (List.cons_ne_nil _ _)]
    exact ⟨_, rfl⟩
  have hversion := version_renew before.stores kept ing
  rw [← hlast, Option.map_eq_some_iff] at hversion
  obtain ⟨r, hr, hversion⟩ := hversion
  obtain ⟨hpass, hmanaged, hdata⟩ := lastResolution_sound hr
  obtain ⟨hstored, hkey⟩ := List.mem_filter.mp hmanaged
  obtain ⟨e, he, hbrings⟩ := (hholds r.stores hpass).2 r.ing (List.mem_filter.mp hstored).1
  obtain ⟨e', he', hbrings'⟩ :=
    (hholds before.stores (List.mem_cons_self ..)).2 ing (List.mem_filter.mp hing).1
  have hsame : r.ing.metadata.sameObject ing.metadata = true :=
    ((hlawful.named e he r.ing hbrings).sameObject_iff (hlawful.named e' he' ing hbrings')).mpr
      (of_decide_eq_true hkey)
  have hing : r.ing = ing :=
    hlawful.versions e he e' he' r.ing ing hbrings hbrings' hsame hversion
  exact ⟨r.stores, by rw [hr, ← hing], hdata⟩

include hlawful hholds in
/-- After a pass the key of a managed Ingress is degraded exactly if the Ingress would be, were it
resolved now, unless it is stale. -/
theorem contains_degraded_eq_iff (hmirrors : Mirrors sources before.passes before.configuration)
    {ing : Ingress} (hing : ing ∈ sources.managed before.stores) :
    ((before.meet sources .refresh).configuration.degraded.contains ing.metadata.key
        = (extract (Configuration.surroundings before.stores
          (before.meet sources .refresh).configuration) ing).value.isDegraded)
      ↔ ∀ secret, ¬ (before.meet sources .refresh).IsStale sources ing secret := by
  have hrefresh := hmirrors.meet (h := before) .refresh
  obtain ⟨stores, hlast, hdata⟩ := exists_lastResolution hlawful hholds hing
  have hbackend : (sources.surroundings stores).backend
      = (Configuration.surroundings before.stores
        (before.meet sources .refresh).configuration).backend := by
    show Sources.backendOf _ = (before.meet sources .refresh).configuration.defaultBackend
    rw [hrefresh.backend, hdata]
    rfl
  rw [(hrefresh.records ing.metadata.key).degraded _ hlast]
  show (extract (sources.surroundings stores) ing).value.isDegraded = _ ↔ _
  rw [isDegraded_eq_iff hbackend]
  constructor
  · intro hsame secret hstale
    obtain ⟨r, hr, hchanged⟩ := hstale.changed
    have hlast := hlast.symm.trans hr
    cases hlast
    refine hchanged (hsame secret ?_)
    rw [hbackend]
    exact hstale.hangsOn
  · intro hfresh secret hhangs
    rw [hbackend] at hhangs
    by_contra hchanged
    exact hfresh secret ⟨hing, hhangs, _, hlast, hchanged⟩

end Exact

/-- After every pass, whatever has happened before, a key is degraded exactly if its Ingress was at
its last resolution. The degraded keys are therefore exact, if the Ingresses are as the API server
warrants, exactly if no Ingress is stale. -/
theorem isExact_iff_of_lawful (sources : Sources) (sslDir : String) (events : List Event)
    (hlawful : Lawful events) :
    let h := (History.after sources sslDir events).meet sources .refresh
    (∀ key, h.configuration.degraded.contains key = true
        ↔ ∃ r, lastResolution sources key h.passes = some r ∧ r.isDegraded sources = true)
      ∧ (h.IsExact sources ↔ ∀ ing secret, ¬ h.IsStale sources ing secret) := by
  intro h
  obtain ⟨hholds, hmirrors⟩ := History.holds_after (P := IsBroughtBy events) sources sslDir
    fun e he ing hing => ⟨e, he, hing⟩
  have hrefresh : Mirrors sources h.passes h.configuration := hmirrors.meet .refresh
  have hone : ∀ ing ∈ sources.managed h.stores, (∃ ing' ∈ sources.managed h.stores,
      ing'.metadata.key = ing.metadata.key ∧ (extract (Configuration.surroundings h.stores
        h.configuration) ing').value.isDegraded = true)
      ↔ (extract (Configuration.surroundings h.stores h.configuration) ing).value.isDegraded
        = true :=
    fun ing hing => exists_managed_iff hlawful hholds hing _
  refine ⟨hrefresh.contains_degraded_iff, fun hexact ing secret hstale => ?_, fun hfresh key => ?_⟩
  · have hing := hstale.managed
    refine (contains_degraded_eq_iff hlawful hholds hmirrors hing).mp ?_ secret hstale
    rw [Bool.eq_iff_iff]
    exact (hexact _).trans (hone ing hing)
  · by_cases hmanaged : ∃ ing ∈ sources.managed h.stores, ing.metadata.key = key
    · obtain ⟨ing, hing, rfl⟩ := hmanaged
      have hsame := (contains_degraded_eq_iff hlawful hholds hmirrors hing).mpr (hfresh ing)
      exact (Bool.eq_iff_iff.mp hsame).trans (hone ing hing).symm
    · -- Nothing is kept under a key without a managed Ingress.
      have hnone : sources.managedAs h.stores key = [] :=
        List.filter_eq_nil_iff.mpr fun ing hing hkey =>
          hmanaged ⟨ing, hing, of_decide_eq_true hkey⟩
      have hlast : lastResolution sources key h.passes = none :=
        (lastResolution_eq_none_iff h.stores _).mpr hnone
      rw [hrefresh.dropped key hlast]
      refine iff_of_false Bool.false_ne_true ?_
      rintro ⟨ing, hing, hkey, -⟩
      exact hmanaged ⟨ing, hing, hkey⟩

/-- An Ingress whose servers are to be verified against the authority of a secret. -/
def verifyingIngress : Ingress where
  metadata := {
    name := some "a"
    namespaceName := some "default"
    annotations := some (TextMap.ofList
      [(Key.secureBackends.name, "true"), (Key.secureVerifyCaSecret.name, "ca")])
    resourceVersion := some "1" }

/-- The secret with the authority. -/
def authoritySecret : Secret where
  metadata := { name := some "ca", namespaceName := some "default" }
  data := some (TextMap.ofList [(Stores.authorityEntry, "")])

/-- A secret that comes after a pass over the Ingress that asks for it. -/
def lateSecret : List Event :=
  [.apply (.ingress verifyingIngress), .refresh, .apply (.secret authoritySecret)]

/-- The Ingress stays degraded at the passes that follow, although it would not be any more. -/
theorem not_isExact_after_lateSecret :
    ¬ ((History.after {} "" lateSecret).meet {} .refresh).IsExact {} := by
  have honly : ∀ e ∈ lateSecret, ∀ ing, e.ingress? = some ing → ing = verifyingIngress := by
    simp [lateSecret, Event.ingress?, eq_comm]
  have hlawful : Lawful lateSecret :=
    { named := fun e he ing h => honly e he ing h ▸ ⟨"default", rfl, by decide⟩
      versions := fun e he e' he' ing ing' h h' _ _ =>
        (honly e he ing h).trans (honly e' he' ing' h').symm }
  obtain ⟨-, hexact⟩ := isExact_iff_of_lawful {} "" lateSecret hlawful
  intro h
  refine hexact.mp h verifyingIngress "default/ca" ⟨by decide +kernel, ?_, ?_⟩
  · exact {
      others := fun f => by cases f <;> decide +kernel
      tls := by decide +kernel
      verified := by decide +kernel
      secret := by decide +kernel }
  · -- The first pass found no such secret, and the second has kept what it found.
    exact ⟨_, rfl, by decide +kernel⟩

end IngressController
