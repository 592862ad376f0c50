import IngressController.Proofs.Configuration.Passes

/-!
# `IngressController.Proofs.Configuration.Bookkeeping`: what is kept is about what is there

A pass goes through the managed Ingresses and passes over those that have not changed, drops every
version when the default backend changes, and forgets at its end what it has not seen. Whatever
happened before, what is kept after it can be told from the stores alone, but for which of the keys
are degraded: that goes back to earlier passes.

* `KeepsBooks`: the versions that are kept are those of the managed Ingresses, nothing else is
  degraded, and the default backend is the one of its config map.
* `keepsBooks_afterPasses`: this holds after every pass in stores whose Ingresses have distinct
  keys.
-/

set_option autoImplicit false

namespace IngressController

open Object

/-- What is kept after a pass in some stores is about the Ingresses and the config map in them. -/
structure KeepsBooks (sources : Sources) (now : Stores) (c : Configuration) : Prop where
  /-- A version is kept under a key exactly if a managed Ingress has this key and this version, where
  none counts as empty. -/
  versions : ∀ key version, c.resolved.get? key = some version ↔
    ∃ ing ∈ now.ingresses.objects, sources.manages ing = true ∧ ing.metadata.key = key
      ∧ ing.metadata.resourceVersion.getD "" = version
  /-- Only keys with a version are degraded. -/
  degraded : ∀ key, c.degraded.contains key = true → c.resolved.contains key = true
  /-- Without a reference the default backend is the built-in one. -/
  builtIn : sources.defaultBackend = none → c.defaultBackend = {}
  /-- The default backend is read from the config map that the reference names. -/
  found : ∀ reference r configMap, sources.defaultBackend = some reference →
    NameReference.cut? reference = some r →
    now.configMaps.find? (·.metadata) r.namespaceName r.name = some configMap →
    c.defaultBackend = (DefaultBackend.ofData (configMap.data.getD ∅)).value
  /-- If the reference is malformed, or there is no such config map, it is read from no data. -/
  missing : ∀ reference, sources.defaultBackend = some reference →
    (∀ r, NameReference.cut? reference = some r →
      now.configMaps.find? (·.metadata) r.namespaceName r.name = none) →
    c.defaultBackend = (DefaultBackend.ofData ∅).value

section Books

variable {sources : Sources} {now : Stores} {before : List Stores} {c : Configuration}

/-- The versions kept after a pass are those of the managed Ingresses in the stores, if these have
distinct keys. -/
theorem Mirrors.get?_resolved_iff (h : Mirrors sources (now :: before) c)
    (hkeys : now.ingresses.objects.Pairwise fun a b => a.metadata.key ≠ b.metadata.key)
    (key version : String) :
    c.resolved.get? key = some version ↔
      ∃ ing ∈ now.ingresses.objects, sources.manages ing = true ∧ ing.metadata.key = key
        ∧ Configuration.versionOf ing = version := by
  rw [(h.records key).version, version_lastResolution, Option.map_eq_some_iff]
  constructor
  · rintro ⟨ing, hlast, hversion⟩
    obtain ⟨hmanaged, hkey⟩ := List.mem_filter.mp (List.mem_of_getLast? hlast)
    obtain ⟨hstored, hmanages⟩ := List.mem_filter.mp hmanaged
    exact ⟨ing, hstored, hmanages, of_decide_eq_true hkey, hversion⟩
  · rintro ⟨ing, hstored, hmanages, rfl, hversion⟩
    -- The Ingress is the only managed one with its key, so it is the last one too.
    have halone : sources.managedAs now ing.metadata.key = [ing] :=
      filter_key_eq (hkeys.filter _) (List.mem_filter.mpr ⟨hstored, hmanages⟩)
    refine ⟨ing, ?_, hversion⟩
    rw [halone]
    rfl

/-- A key that is degraded has a version. -/
theorem Mirrors.contains_resolved_of_degraded (h : Mirrors sources (now :: before) c) {key : String}
    (hdegraded : c.degraded.contains key = true) : c.resolved.contains key = true := by
  obtain ⟨r, hlast, -⟩ := (h.contains_degraded_iff key).mp hdegraded
  rw [TextMap.contains, (h.records key).version, hlast]
  rfl

end Books

/-- After every pass, whatever the stores were at those before it, what is kept is about the
Ingresses and the config map that are there now. -/
theorem keepsBooks_afterPasses (sources : Sources) (now : Stores) (before : List Stores)
    (hkeys : now.ingresses.objects.Pairwise fun a b => a.metadata.key ≠ b.metadata.key) :
    KeepsBooks sources now (Configuration.afterPasses sources (now :: before)) := by
  have hmirrors := mirrors_afterPasses sources (now :: before)
  have hbackend : (Configuration.afterPasses sources (now :: before)).defaultBackend
      = Sources.backendOf (sources.backendData now) := hmirrors.backend
  refine {
    versions := hmirrors.get?_resolved_iff hkeys
    degraded := fun key => hmirrors.contains_resolved_of_degraded
    builtIn := fun hnone => ?_
    found := fun reference r configMap hreference hcut hfind => ?_
    missing := fun reference hreference hfind => ?_ }
  · rw [hbackend, Sources.backendData, hnone]
    rfl
  · have hdata : now.configMapData? reference = some (configMap.data.getD ∅) := by
      rw [Stores.configMapData?, hcut]
      simp [hfind]
    rw [hbackend, Sources.backendData, hreference, Option.map_some, hdata]
    rfl
  · have hdata : now.configMapData? reference = none := by
      rw [Stores.configMapData?]
      cases hcut : NameReference.cut? reference with
      | none => rfl
      | some r => simp [hfind r hcut]
    rw [hbackend, Sources.backendData, hreference, Option.map_some, hdata]
    rfl

/-- Where a controller of a class takes its default backend from. -/
def classedSources : Sources where
  defaultBackend := some "ingress/defaults"
  ingressClass := "haproxy"

/-- An Ingress in the default namespace that asks for a class. -/
def classed (name className : String) (resourceVersion : Option String) : Ingress where
  metadata := { name := some name, namespaceName := some "default", resourceVersion }
  spec := some { className := some className }

/-- The config map with the settings of the default backend. -/
def backendSettings (readTimeout : String) : ConfigMap where
  metadata := { name := some "defaults", namespaceName := some "ingress" }
  data := some (TextMap.ofList [("proxy-read-timeout", readTimeout)])

/-- Stores with two Ingresses of one class, of which the second has no version. -/
def storesBefore : Stores where
  ingresses := ⟨[classed "a" "haproxy" (some "1"), classed "b" "haproxy" none]⟩
  configMaps := ⟨[backendSettings "10"]⟩

/-- The first Ingress has gone to another class, there is a new one, and the settings are others. -/
def storesNow : Stores where
  ingresses := ⟨[classed "a" "nginx" (some "2"), classed "b" "haproxy" none,
    classed "c" "haproxy" (some "3")]⟩
  configMaps := ⟨[backendSettings "20"]⟩

/-- What is kept follows a change of class, a new Ingress and other settings. -/
theorem keepsBooks_of_reclassed :
    (storesNow.ingresses.objects.Pairwise fun a b => a.metadata.key ≠ b.metadata.key)
      ∧ KeepsBooks classedSources storesNow
        (Configuration.afterPasses classedSources [storesNow, storesBefore]) := by
  have hkeys : storesNow.ingresses.objects.Pairwise
      fun a b => a.metadata.key ≠ b.metadata.key := by
    decide +kernel
  exact ⟨hkeys, keepsBooks_afterPasses classedSources storesNow [storesBefore] hkeys⟩

end IngressController
