import IngressController.Annotations.Extract
import IngressController.IngressClass
import IngressController.TcpService.Table

/-!
# The configuration that is kept from the stores

A pass takes over the settings of the default backend, rebuilds the backends of the TCP services
and resolves the annotations of the managed Ingresses. An Ingress is resolved again only when its
version has changed, or when the default backend has, since every Ingress inherits from it. What is
kept about Ingresses that are no longer managed is dropped.
-/

set_option autoImplicit false

namespace IngressController

open Object

/-- Where the configuration comes from. -/
structure Sources where
  /-- The config map with the TCP services table. -/
  tcpServices : Option String := none
  /-- The config map with the settings of the default backend. -/
  defaultBackend : Option String := none
  ingressClass : String := ""
  defaultIngressClass : String := IngressClass.builtInDefault

/-- Whether an Ingress is configured here. -/
def Sources.manages (s : Sources) (ing : Ingress) : Bool :=
  IngressClass.manages s.ingressClass s.defaultIngressClass ing

/-- The configuration as it is kept. -/
structure Configuration where
  defaultBackend : DefaultBackend := {}
  /-- The data that the settings of the default backend were read from. -/
  backendData : Option (TextMap String) := none
  tcpBackends : List TcpService.Backend := []
  /-- The version of each Ingress that has been resolved, by its key. -/
  resolved : TextMap String := ∅
  /-- The keys of the Ingresses with an annotation that could not be honoured. -/
  degraded : TextSet := ∅

namespace Configuration

/-! ### The default backend -/

/-- Takes over the settings of the default backend if they have changed. -/
def refreshDefaultBackend (sources : Sources) (stores : Stores) (c : Configuration) :
    Reported Configuration :=
  match sources.defaultBackend with
  | none => pure c
  | some reference =>
    let data := (stores.configMapData? reference).getD ∅
    if c.backendData = some data then pure c
    else do
      Reported.log .info "default backend configuration changed"
      let backend ← DefaultBackend.ofData data
      pure { c with defaultBackend := backend, backendData := some data, resolved := ∅ }

/-! ### The TCP services -/

/-- Rebuilds the backends of the TCP services. If a look-up fails, or if the backends are the same
but for the pods behind their servers, the old ones are kept. -/
def refreshTcpServices (sources : Sources) (stores : Stores) (c : Configuration) :
    Reported Configuration :=
  match sources.tcpServices with
  | none => pure c
  | some reference => do
    let table := (stores.configMapData? reference).getD ∅
    match ← TcpService.sync (TcpService.Lookups.ofStores stores) table with
    | .error e =>
      Reported.log .warn ("TCP services sync aborted: " ++ e.message)
      pure c
    | .ok outcome =>
      if TcpService.sameList TcpService.Backend.sameAs outcome.backends c.tcpBackends then pure c
      else do
        Reported.log .info "TCP services changed"
        pure { c with tcpBackends := outcome.backends }

/-! ### The annotations -/

/-- The version of an Ingress, empty if it has none. -/
def versionOf (ing : Ingress) : String :=
  ing.metadata.resourceVersion.getD ""

/-- What annotations are resolved against. -/
def surroundings (stores : Stores) (c : Configuration) : Annotations.Surroundings where
  backend := c.defaultBackend
  certificate? := stores.authority?

/-- Takes note of whether an Ingress is degraded, and reports a change. -/
def markDegraded (key : String) (isDegraded : Bool) (c : Configuration) :
    Reported Configuration :=
  if isDegraded then
    if c.degraded.contains key then pure c
    else do
      Reported.log .warn "Ingress has invalid annotations"
      pure { c with degraded := c.degraded.add key }
  else if c.degraded.contains key then do
    Reported.log .info "Ingress annotations are valid again"
    pure { c with degraded := c.degraded.erase key }
  else pure c

/-- Resolves the annotations of an Ingress unless this version of it has been resolved. -/
def resolve (stores : Stores) (c : Configuration) (ing : Ingress) : Reported Configuration :=
  let key := ing.metadata.key
  if c.resolved.get? key = some (versionOf ing) then pure c
  else do
    let resolved ← Annotations.extract (surroundings stores c) ing
    let c ← c.markDegraded key resolved.isDegraded
    pure { c with resolved := c.resolved.insert key (versionOf ing) }

/-- Resolves the annotations of the managed Ingresses and drops what is kept about others. -/
def resolveAnnotations (sources : Sources) (stores : Stores) (c : Configuration) :
    Reported Configuration := do
  let managed := stores.ingresses.objects.filter sources.manages
  let c ← managed.foldlM (resolve stores) c
  let keys := TextSet.ofTexts (managed.map (·.metadata.key))
  pure { c with
    resolved := c.resolved.filter fun key _ => keys.contains key
    degraded := c.degraded.filter fun key _ => keys.contains key }

/-! ### Passes -/

/-- One pass. -/
def refresh (sources : Sources) (stores : Stores) (c : Configuration) :
    Reported Configuration := do
  let c ← c.refreshDefaultBackend sources stores
  let c ← c.refreshTcpServices sources stores
  c.resolveAnnotations sources stores

/-- So many passes. -/
def refreshTimes (sources : Sources) (stores : Stores) :
    Nat → Configuration → Reported Configuration
  | 0, c => pure c
  | n + 1, c => do
    let c ← c.refresh sources stores
    refreshTimes sources stores n c

/-- The passes that are made during a time: one at its beginning, however short it is, and one after
each interval that ends before the time does. -/
def refreshFor (sources : Sources) (stores : Stores) (interval duration : Nat)
    (c : Configuration) : Reported Configuration :=
  refreshTimes sources stores (max 1 ((duration + interval - 1) / interval)) c

end Configuration

end IngressController
