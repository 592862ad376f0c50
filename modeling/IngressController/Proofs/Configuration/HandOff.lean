import IngressController.Proofs.Configuration.Passes
import IngressController.Proofs.TcpService.Table
import Mathlib.Data.List.Chain

/-!
# `IngressController.Proofs.Configuration.HandOff`: which TCP backends are handed on

A pass builds the backends of the TCP services anew, but keeps the ones that it has if the new ones
are the same up to the pods behind their servers. Each server says which pod is behind it, and that
is part of what is handed on. So the backends that are kept are those of the last pass with a
result up to the pods, and field for field unless a pod has been replaced behind an address that
has stayed the same: then they go on naming the old one.

* `Backend.sameAs_iff`: what counts as the same is what agrees when the pods are left out.
* `tcpBackends_refresh`: the backends after one pass.
* `FollowsTable`: the backends are those of the last pass over the table that had a result.
* `handsOn_afterPasses`: this has always been so exactly if no two results in a row differ in their
  pods only.
-/

set_option autoImplicit false

namespace IngressController

open Object

/-! ### The same but for the pods -/

namespace TcpService

/-- The server without the pod behind it. -/
def Endpoint.withoutPod (e : Endpoint) : Endpoint :=
  { e with target := "" }

/-- The backend without the pods behind its servers. -/
def Backend.withoutPods (b : Backend) : Backend :=
  { b with endpoints := b.endpoints.map Endpoint.withoutPod }

/-- If elements are the same exactly if they have the same image, then so are lists. -/
theorem sameList_iff {α β : Type} {same : α → α → Bool} {f : α → β}
    (h : ∀ a b, same a b = true ↔ f a = f b) (as bs : List α) :
    sameList same as bs = true ↔ as.map f = bs.map f := by
  induction as generalizing bs with
  | nil => cases bs <;> simp [sameList]
  | cons a as ih =>
      cases bs with
      | nil => simp [sameList]
      | cons b bs => rw [sameList, Bool.and_eq_true, h, ih, List.map_cons, List.map_cons,
          List.cons_eq_cons]

/-- Two servers are the same exactly if they agree without their pods. -/
theorem Endpoint.sameAs_iff (a b : Endpoint) :
    a.sameAs b = true ↔ a.withoutPod = b.withoutPod := by
  cases a
  cases b
  simp [sameAs, withoutPod, and_assoc]

/-- Two backends are the same exactly if they agree without the pods. -/
theorem Backend.sameAs_iff (a b : Backend) :
    a.sameAs b = true ↔ a.withoutPods = b.withoutPods := by
  have hendpoints := sameList_iff Endpoint.sameAs_iff a.endpoints b.endpoints
  cases a
  cases b
  simp only [sameAs, withoutPods, Bool.and_eq_true, beq_iff_eq, hendpoints, Backend.mk.injEq,
    and_assoc]

end TcpService

open TcpService

/-! ### What is built -/

/-- The backends that are built in some stores: none without a table or if a look-up fails. -/
def Sources.built? (sources : Sources) (stores : Stores) : Option (List Backend) :=
  sources.tcpServices.bind fun reference =>
    (sync (Lookups.ofStores stores)
      ((stores.configMapData? reference).getD ∅)).value.toOption.map (·.backends)

/-- The results of the passes that had one. -/
def Sources.builds (sources : Sources) (passes : List Stores) : List (List Backend) :=
  passes.filterMap sources.built?

section Passes

variable {sources : Sources} {now : Stores} {passes : List Stores}

/-- What is built takes the place of the backends that are kept, unless these are the same but for
the pods. -/
theorem tcpBackends_refreshTcpServices (sources : Sources) (now : Stores) (c : Configuration) :
    (c.refreshTcpServices sources now).value.tcpBackends
      = (sources.built? now).elim c.tcpBackends fun built =>
        if built.map Backend.withoutPods = c.tcpBackends.map Backend.withoutPods
          then c.tcpBackends else built := by
  rw [Configuration.refreshTcpServices, Sources.built?]
  cases sources.tcpServices with
  | none => rfl
  | some reference =>
      show Configuration.tcpBackends (Reported.value (_ >>= _)) = _
      rw [Reported.value_bind, Option.bind_some]
      cases (sync (Lookups.ofStores now) ((now.configMapData? reference).getD ∅)).value with
      | error e => rfl
      | ok outcome =>
          simp only [sameList_iff Backend.sameAs_iff]
          show _ = if _ then _ else _
          split
          · rfl
          · rfl

/-- The backends after a pass. -/
theorem tcpBackends_refresh (sources : Sources) (now : Stores) (c : Configuration) :
    (c.refresh sources now).value.tcpBackends
      = (sources.built? now).elim c.tcpBackends fun built =>
        if built.map Backend.withoutPods = c.tcpBackends.map Backend.withoutPods
          then c.tcpBackends else built := by
  have hbackend : (c.refreshDefaultBackend sources now).value.tcpBackends = c.tcpBackends := by
    rw [Configuration.refreshDefaultBackend]
    split
    · rfl
    · show (if _ then _ else _ : Reported Configuration).value.tcpBackends = _
      split
      · rfl
      · rfl
  have hannotations : ∀ c : Configuration,
      (c.resolveAnnotations sources now).value.tcpBackends = c.tcpBackends := by
    intro c
    obtain ⟨resolved, degraded, hvalue⟩ := c.value_resolveAnnotations sources now
    rw [hvalue]
  rw [Configuration.refresh, Reported.value_bind, Reported.value_bind, hannotations,
    tcpBackends_refreshTcpServices, hbackend]

/-! ### After any passes -/

/-- The backends that are handed on after some passes are, field for field, the result of the last
one that had a result, and none before there is one. -/
def FollowsTable (sources : Sources) (passes : List Stores) : Prop :=
  (Configuration.afterPasses sources passes).tcpBackends = (sources.builds passes).headD []

/-- What the backends that are handed on after some passes have to do with the results of these. -/
structure HandsOn (sources : Sources) (passes : List Stores) : Prop where
  /-- Before there is a result there are no backends. -/
  empty : sources.builds passes = [] → (Configuration.afterPasses sources passes).tcpBackends = []
  /-- A pass without a result leaves them. -/
  left : ∀ now, sources.built? now = none →
    (Configuration.afterPasses sources (now :: passes)).tcpBackends
      = (Configuration.afterPasses sources passes).tcpBackends
  /-- Once there is a result they are one of the results. -/
  built : sources.builds passes ≠ [] →
    (Configuration.afterPasses sources passes).tcpBackends ∈ sources.builds passes
  /-- Without the pods they are the last result. -/
  butForPods : (Configuration.afterPasses sources passes).tcpBackends.map Backend.withoutPods
    = ((sources.builds passes).headD []).map Backend.withoutPods
  /-- They have always been the last result in full exactly if no two results in a row differ in
  their pods only. -/
  follows_iff : (∀ before, before <:+ passes → FollowsTable sources before)
    ↔ (sources.builds passes).IsChain fun later earlier =>
      later.map Backend.withoutPods = earlier.map Backend.withoutPods → later = earlier

/-- The results after one more pass that has none. -/
theorem builds_cons_of_none (h : sources.built? now = none) :
    sources.builds (now :: passes) = sources.builds passes :=
  List.filterMap_cons_none h

/-- The results after one more pass that has one. -/
theorem builds_cons_of_some {built : List Backend} (h : sources.built? now = some built) :
    sources.builds (now :: passes) = built :: sources.builds passes :=
  List.filterMap_cons_some h

/-- The backends after one more pass without a result. -/
theorem tcpBackends_cons_of_none (h : sources.built? now = none) :
    (Configuration.afterPasses sources (now :: passes)).tcpBackends
      = (Configuration.afterPasses sources passes).tcpBackends := by
  rw [Configuration.afterPasses, tcpBackends_refresh, h]
  rfl

/-- The backends after one more pass with a result. -/
theorem tcpBackends_cons_of_some {built : List Backend} (h : sources.built? now = some built) :
    (Configuration.afterPasses sources (now :: passes)).tcpBackends
      = if built.map Backend.withoutPods
          = (Configuration.afterPasses sources passes).tcpBackends.map Backend.withoutPods
        then (Configuration.afterPasses sources passes).tcpBackends else built := by
  rw [Configuration.afterPasses, tcpBackends_refresh, h]
  rfl

/-- Without the pods the backends are the last result. -/
theorem map_withoutPods_tcpBackends (sources : Sources) (passes : List Stores) :
    (Configuration.afterPasses sources passes).tcpBackends.map Backend.withoutPods
      = ((sources.builds passes).headD []).map Backend.withoutPods := by
  induction passes with
  | nil => rfl
  | cons now before ih =>
      cases hbuilt : sources.built? now with
      | none => rw [tcpBackends_cons_of_none hbuilt, builds_cons_of_none hbuilt, ih]
      | some built =>
          rw [tcpBackends_cons_of_some hbuilt, builds_cons_of_some hbuilt, List.headD_cons]
          split
          · next hsame => exact hsame.symm
          · rfl

/-- Once there is a result the backends are one of the results. -/
theorem tcpBackends_mem_builds (h : sources.builds passes ≠ []) :
    (Configuration.afterPasses sources passes).tcpBackends ∈ sources.builds passes := by
  induction passes with
  | nil => exact absurd rfl h
  | cons now before ih =>
      cases hbuilt : sources.built? now with
      | none =>
          rw [builds_cons_of_none hbuilt] at h
          rw [tcpBackends_cons_of_none hbuilt, builds_cons_of_none hbuilt]
          exact ih h
      | some built =>
          rw [tcpBackends_cons_of_some hbuilt, builds_cons_of_some hbuilt, List.mem_cons]
          split
          · next hsame =>
              by_cases hfirst : sources.builds before = []
              · -- No backends are kept before the first result, so this one has none either.
                have hnone := map_withoutPods_tcpBackends sources before
                rw [hfirst, List.headD_nil, List.map_nil] at hnone
                rw [hnone, List.map_eq_nil_iff] at hsame
                rw [List.map_eq_nil_iff] at hnone
                exact .inl (hnone.trans hsame.symm)
              · exact .inr (ih hfirst)
          · exact .inl rfl

/-- If the backends were the last result in full, they are after one more pass exactly if its result
is not the same but for the pods. -/
theorem followsTable_cons_iff {built : List Backend} (hbuilt : sources.built? now = some built)
    (hbefore : FollowsTable sources passes) :
    FollowsTable sources (now :: passes) ↔ ∀ earlier ∈ (sources.builds passes).head?,
      built.map Backend.withoutPods = earlier.map Backend.withoutPods → built = earlier := by
  rw [FollowsTable, tcpBackends_cons_of_some hbuilt, builds_cons_of_some hbuilt, List.headD_cons,
    hbefore]
  cases sources.builds passes with
  | nil => simp [eq_comm]
  | cons earlier rest => simp [eq_comm]

/-- The backends have always been the last result in full exactly if no two results in a row differ
in their pods only. -/
theorem followsTable_iff_isChain (sources : Sources) (passes : List Stores) :
    (∀ before, before <:+ passes → FollowsTable sources before)
      ↔ (sources.builds passes).IsChain fun later earlier =>
        later.map Backend.withoutPods = earlier.map Backend.withoutPods → later = earlier := by
  induction passes with
  | nil =>
      refine iff_of_true (fun before hbefore => ?_) .nil
      rw [List.suffix_nil.mp hbefore]
      rfl
  | cons now before ih =>
      have hcons : (∀ part, part <:+ now :: before → FollowsTable sources part)
          ↔ FollowsTable sources (now :: before)
            ∧ ∀ part, part <:+ before → FollowsTable sources part := by
        simp only [List.suffix_cons_iff, forall_eq_or_imp]
      rw [hcons, ih]
      cases hbuilt : sources.built? now with
      | none =>
          rw [builds_cons_of_none hbuilt, and_iff_right_iff_imp, ← ih]
          intro hbefore
          rw [FollowsTable, tcpBackends_cons_of_none hbuilt, builds_cons_of_none hbuilt]
          exact hbefore before List.suffix_rfl
      | some built =>
          rw [builds_cons_of_some hbuilt, List.isChain_cons]
          exact and_congr_left fun hchain =>
            followsTable_cons_iff hbuilt (ih.mpr hchain before List.suffix_rfl)

/-- After any passes, whatever has happened to the stores between them, the backends that are handed
on are those of the last pass with a result up to the pods behind the servers. They are so in full
as long as no two results in a row differ in their pods only, and no longer. -/
theorem handsOn_afterPasses (sources : Sources) (passes : List Stores) :
    HandsOn sources passes where
  empty hnone := by
    have hempty := map_withoutPods_tcpBackends sources passes
    rwa [hnone, List.headD_nil, List.map_nil, List.map_eq_nil_iff] at hempty
  left _ := tcpBackends_cons_of_none
  built := tcpBackends_mem_builds
  butForPods := map_withoutPods_tcpBackends sources passes
  follows_iff := followsTable_iff_isChain sources passes

end Passes

/-- Stores with a table of one entry, and one pod behind the address that it is served from. -/
def storesWithPod (pod : String) : Stores where
  services := ⟨[{
    metadata := { name := some "echo", namespaceName := some "default" }
    spec := some { ports := some [{ port := 80 }] } }]⟩
  endpoints := ⟨[{
    metadata := { name := some "echo", namespaceName := some "default" }
    subsets := some [{
      addresses := some [{
        ip := "10.0.0.1"
        targetRef := some { namespaceName := some "default", name := some pod } }]
      ports := some [{ port := 8080 }] }] }]⟩
  configMaps := ⟨[{
    metadata := { name := some "tcp", namespaceName := some "ingress" }
    data := some (single ("8080", "default/echo:80")) }]⟩
  synced := true

/-- The backend of the entry. -/
def backendWithPod (pod : String) : Backend where
  name := "default_echo"
  port := 8080
  endpoints := [{
    name := endpointName 1
    ip := "10.0.0.1"
    port := 8080
    target := "default" ++ "/" ++ pod }]

/-- What is built in these stores is the backend with the pod. -/
theorem built?_storesWithPod (pod : String) :
    ({ tcpServices := some "ingress/tcp" } : Sources).built? (storesWithPod pod)
      = some [backendWithPod pod] := by
  have hconvert : (Lookups.ofStores (storesWithPod pod)).convert "8080" "default/echo:80"
      = .ok (.ok (backendWithPod pod)) := by
    have hparse : Directive.parse "8080" "default/echo:80"
        = .ok ⟨8080, "default/echo", "80", {}, ""⟩ := by
      decide +kernel
    rw [Lookups.convert, hparse]
    rfl
  have hdata : (storesWithPod pod).configMapData? "ingress/tcp"
      = some (single ("8080", "default/echo:80")) := by
    rfl
  rw [Sources.built?, Option.bind_some, hdata, Option.getD_some, value_sync_single hconvert]
  rfl

/-- A pod is replaced and its address goes to the next one: the backends that are handed on go on
naming the pod that is gone. -/
theorem not_followsTable_of_replacedPod :
    ¬ ∀ before, before <:+ [storesWithPod "echo-1", storesWithPod "echo-0"] →
      FollowsTable { tcpServices := some "ingress/tcp" } before := by
  rw [(handsOn_afterPasses _ _).follows_iff, builds_cons_of_some (built?_storesWithPod "echo-1"),
    builds_cons_of_some (built?_storesWithPod "echo-0"), List.isChain_cons_cons, not_and_or]
  exact .inl (by decide +kernel)

end IngressController
