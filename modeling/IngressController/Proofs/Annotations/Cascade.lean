import IngressController.Proofs.Annotations.Reading
import IngressController.Proofs.DefaultBackend

/-!
# `IngressController.Proofs.Annotations.Cascade`: texts with two defaults behind them

The texts in the settings of the proxy and of the health checks stand in three tiers: the
annotation of the Ingress, the value in the config map of the default backend, and what is built
in. The first text of these that is not empty should be the setting, and the two steps between the
tiers are taken in two places: an Ingress is resolved against a default backend, which has been
read from the config map before.

The step from the annotation skips an empty text. The step from the config map does not: a value
that is there holds, be it blank, and what is built in is used only where the value is missing. So
a blank value takes a setting away, where a blank number or truth value leaves it as it is built
in.

* `TextSetting.resolve_ofData`: which text a setting has.
* `TextSetting.resolve_eq_firstNonempty_iff`: exactly when it is not the first one of the three
  tiers.
-/

set_option autoImplicit false

namespace IngressController.Annotations

open Object

/-- The settings of the proxy and of the health checks that are texts handed on as they are. -/
inductive TextSetting where
  | bufferSize
  | cookieDomain
  | cookiePath
  | nextServer
  | passParams
  | requestBuffering
  | checkUri
  | checkAddr
  | checkPort
  | checkInterval
  | checkRiseCount
  | checkFallCount
  deriving DecidableEq

namespace TextSetting

/-! ### The three tiers -/

/-- The key of the annotation. -/
def key : TextSetting → Key
  | bufferSize => .proxyBufferSize
  | cookieDomain => .proxyCookieDomain
  | cookiePath => .proxyCookiePath
  | nextServer => .proxyNextServer
  | passParams => .proxyPassParams
  | requestBuffering => .proxyRequestBuffering
  | checkUri => .healthCheckUri
  | checkAddr => .healthCheckAddr
  | checkPort => .healthCheckPort
  | checkInterval => .healthCheckInterval
  | checkRiseCount => .healthCheckRiseCount
  | checkFallCount => .healthCheckFallCount

/-- The key in the config map. It is the one of the annotation without the domain. -/
def dataKey (t : TextSetting) : String :=
  t.key.localName

/-- The text that a default backend has for a setting. -/
def inherited (backend : DefaultBackend) : TextSetting → String
  | bufferSize => backend.proxyBufferSize
  | cookieDomain => backend.proxyCookieDomain
  | cookiePath => backend.proxyCookiePath
  | nextServer => backend.proxyNextServer
  | passParams => backend.proxyPassParams
  | requestBuffering => backend.proxyRequestBuffering
  | checkUri => backend.healthCheckUri
  | checkAddr => backend.healthCheckAddr
  | checkPort => backend.healthCheckPort
  | checkInterval => backend.healthCheckInterval
  | checkRiseCount => backend.healthCheckRiseCount
  | checkFallCount => backend.healthCheckFallCount

/-- The text that is built in. -/
def builtIn (t : TextSetting) : String :=
  t.inherited {}

/-- The setting of an Ingress that is resolved against a default backend. -/
def resolve (backend : DefaultBackend) (ing : Ingress) : TextSetting → String
  | bufferSize => (Proxy.resolve backend ing).value.bufferSize
  | cookieDomain => (Proxy.resolve backend ing).value.cookieDomain
  | cookiePath => (Proxy.resolve backend ing).value.cookiePath
  | nextServer => (Proxy.resolve backend ing).value.nextServer
  | passParams => (Proxy.resolve backend ing).value.passParams
  | requestBuffering => (Proxy.resolve backend ing).value.requestBuffering
  | checkUri => (HealthCheck.resolve backend ing).uri
  | checkAddr => (HealthCheck.resolve backend ing).addr
  | checkPort => (HealthCheck.resolve backend ing).port
  | checkInterval => (HealthCheck.resolve backend ing).interval
  | checkRiseCount => (HealthCheck.resolve backend ing).riseCount
  | checkFallCount => (HealthCheck.resolve backend ing).fallCount

/-- The texts of the three tiers, empty where a tier has none: the annotation, the value in the
config map without blanks around it, and what is built in. -/
def tiers (t : TextSetting) (data : TextMap String) (ing : Ingress) : List String :=
  [(ing.metadata.annotationText? t.key.name).getD "",
    ((data.get? t.dataKey).map Text.trim).getD "", t.builtIn]

/-- The first text that is not empty, if there is one. -/
def firstNonempty (texts : List String) : String :=
  (texts.find? (· ≠ "")).getD ""

/-! ### From tier to tier -/

/-- A setting is the annotation unless that is empty, and what the default backend has otherwise. -/
theorem resolve_eq (t : TextSetting) (backend : DefaultBackend) (ing : Ingress) :
    t.resolve backend ing = nonemptyText ing t.key.name (t.inherited backend) := by
  cases t <;> rfl

/-- The default backend has the value in the config map, empty or not, and what is built in only
where there is none. -/
theorem inherited_ofData (t : TextSetting) (data : TextMap String) :
    t.inherited (DefaultBackend.ofData data).value
      = ((data.get? t.dataKey).map Text.trim).getD t.builtIn := by
  have hget := DefaultBackend.get_ofData data
  cases t
  exacts [hget .proxyBufferSize, hget .proxyCookieDomain, hget .proxyCookiePath,
    hget .proxyNextServer, hget .proxyPassParams, hget .proxyRequestBuffering,
    hget .healthCheckUri, hget .healthCheckAddr, hget .healthCheckPort, hget .healthCheckInterval,
    hget .healthCheckRiseCount, hget .healthCheckFallCount]

/-- The text of a setting: an empty annotation counts as missing, an empty value in the config map
does not. -/
theorem resolve_ofData (t : TextSetting) (data : TextMap String) (ing : Ingress) :
    t.resolve (DefaultBackend.ofData data).value ing
      = ((ing.metadata.annotationText? t.key.name).filter (· ≠ "")).getD
          (((data.get? t.dataKey).map Text.trim).getD t.builtIn) := by
  rw [resolve_eq, inherited_ofData, nonemptyText_eq]

/-- The first text that is not empty is the first one of all, or the first one of the rest. -/
theorem firstNonempty_cons (text : String) (rest : List String) :
    firstNonempty (text :: rest) = if text = "" then firstNonempty rest else text := by
  rw [firstNonempty, firstNonempty, List.find?_cons]
  by_cases h : text = "" <;> simp [h]

/-- The text that stands first in the three tiers. -/
theorem firstNonempty_tiers (t : TextSetting) (data : TextMap String) (ing : Ingress) :
    firstNonempty (t.tiers data ing)
      = ((ing.metadata.annotationText? t.key.name).filter (· ≠ "")).getD
          ((((data.get? t.dataKey).map Text.trim).filter (· ≠ "")).getD t.builtIn) := by
  -- A tier without a text and one with an empty text are skipped alike.
  have hstep : ∀ (text? : Option String) (rest : List String),
      firstNonempty (text?.getD "" :: rest)
        = (text?.filter (· ≠ "")).getD (firstNonempty rest) := by
    intro text? rest
    rw [firstNonempty_cons]
    cases text? with
    | none => rfl
    | some text => by_cases h : text = "" <;> simp [h, Option.filter]
  -- What is built in is taken even if it is empty, since nothing stands behind it.
  have hlast : firstNonempty [t.builtIn] = t.builtIn := by
    rw [firstNonempty_cons]
    split
    · next h => exact h.symm
    · rfl
  rw [tiers, hstep, hstep, hlast]

/-! ### Blank values -/

/-- A blank value in the config map takes a setting away: the Ingress says nothing about it, the
value is there but has nothing but blanks, and something is built in. -/
structure TakenAway (t : TextSetting) (data : TextMap String) (ing : Ingress) : Prop where
  unset : ing.metadata.annotationText? t.key.name = none
    ∨ ing.metadata.annotationText? t.key.name = some ""
  blank : ∃ value, data.get? t.dataKey = some value ∧ ∀ c ∈ value.toList, Text.isBlank c = true
  builtIn_ne : t.builtIn ≠ ""

/-- A text of nothing but blanks is trimmed to nothing, and no other one is. -/
theorem trim_eq_empty_iff (text : String) :
    Text.trim text = "" ↔ ∀ c ∈ text.toList, Text.isBlank c = true := by
  rw [← Text.trimChars_eq_nil_iff, Text.trim]
  exact String.ofList_eq_empty_iff

/-- An annotation says nothing about a setting if it is missing or empty. -/
theorem filter_eq_none_iff (text? : Option String) :
    text?.filter (· ≠ "") = none ↔ text? = none ∨ text? = some "" := by
  cases text? with
  | none => simp
  | some text => by_cases h : text = "" <;> simp [h, Option.filter]

/-- Where the Ingress says nothing, a setting is taken away exactly if the value in the config map
is trimmed to nothing and something is built in. -/
theorem takenAway_iff_of_unset {t : TextSetting} {data : TextMap String} {ing : Ingress}
    (hunset : (ing.metadata.annotationText? t.key.name).filter (· ≠ "") = none) :
    t.TakenAway data ing
      ↔ (data.get? t.dataKey).map Text.trim = some "" ∧ t.builtIn ≠ "" := by
  rw [Option.map_eq_some_iff]
  constructor
  · rintro ⟨-, ⟨value, hvalue, hblank⟩, hbuiltIn⟩
    exact ⟨⟨value, hvalue, (trim_eq_empty_iff value).mpr hblank⟩, hbuiltIn⟩
  · rintro ⟨⟨value, hvalue, htrim⟩, hbuiltIn⟩
    exact ⟨(filter_eq_none_iff _).mp hunset, ⟨value, hvalue, (trim_eq_empty_iff value).mp htrim⟩,
      hbuiltIn⟩

/-- A setting is the first text of its three tiers that is not empty, exactly if it is not taken
away by a blank value in the config map; if it is, it is empty. -/
theorem resolve_eq_firstNonempty_iff (t : TextSetting) (data : TextMap String) (ing : Ingress) :
    (t.resolve (DefaultBackend.ofData data).value ing = firstNonempty (t.tiers data ing)
        ↔ ¬ t.TakenAway data ing) ∧
      (t.TakenAway data ing → t.resolve (DefaultBackend.ofData data).value ing = "") := by
  rw [resolve_ofData, firstNonempty_tiers]
  cases hown : (ing.metadata.annotationText? t.key.name).filter (· ≠ "") with
  | some text =>
      have hkept : ¬ t.TakenAway data ing := by
        intro h
        rw [(filter_eq_none_iff _).mpr h.unset] at hown
        cases hown
      exact ⟨iff_of_true rfl hkept, fun h => absurd h hkept⟩
  | none =>
      rw [takenAway_iff_of_unset hown, Option.getD_none, Option.getD_none]
      cases (data.get? t.dataKey).map Text.trim with
      | none => simp
      | some value =>
          -- Only here do the two steps differ: a value that is there but empty.
          by_cases hempty : value = ""
          · subst hempty
            simp [Option.filter, eq_comm (a := "")]
          · simp [hempty, Option.filter]

/-- In this config map the size of the buffers is blank. -/
def blankBufferSize : TextMap String :=
  TextMap.ofList [("proxy-buffer-size", " ")]

/-- An Ingress that says nothing about its buffers then has no size for them, not the one that is
built in. -/
theorem resolve_bufferSize_of_blank :
    bufferSize.resolve (DefaultBackend.ofData blankBufferSize).value {} = "" ∧
      firstNonempty (bufferSize.tiers blankBufferSize {}) = "4k" := by
  have htaken : bufferSize.TakenAway blankBufferSize {} :=
    ⟨.inl rfl, ⟨" ", by decide +kernel, List.all_eq_true.mp (by decide)⟩, by decide⟩
  exact ⟨(resolve_eq_firstNonempty_iff _ _ _).2 htaken, by decide +kernel⟩

end TextSetting

end IngressController.Annotations
