import IngressController.Object.Ingress
import IngressController.Proofs.Json

/-!
# `IngressController.Proofs.Object.Ingress`: reading what has been written

An object is read member by member, and an entry of a load balancer is read back as it was written,
as long as its ports are numbers of 32 bits, as those of the cluster are.

* `optional_congr`: reading a member depends on that member only.
* `list_toJson`: entries are read back.
* `Ingress.ofJson?_eq_some_iff`: an Ingress is read part by part.
* `Ingress.ofJson?_of_entries` and `Ingress.ofJson?_of_version`: an Ingress whose entries or whose
  version has been set is read as before but for these.
-/

set_option autoImplicit false

namespace IngressController.Object

open Json

section Decoder

variable {α : Type} {json json' : Json} {name : String} {read : Json → Option α}

/-- Reading a member depends on that member only. -/
theorem optional_congr (h : given? json' name = given? json name) :
    optional json' name read = optional json name read := by
  rw [optional, optional, member?_eq_given?, member?_eq_given?, h]

theorem optional_of_given {value : Json} (h : given? json name = some value)
    (hvalue : value ≠ null) : optional json name read = (read value).map some := by
  have hmember : json.member? name = some value := by
    rw [member?_eq_given?, h]
    cases value with
    | null => exact absurd rfl hvalue
    | _ => rfl
  rw [optional, hmember]

theorem list_map {write : α → Json} (items : List α) (h : ∀ a ∈ items, read (write a) = some a) :
    list read (.arr (items.map write)) = some items := by
  rw [list, arr?, Option.bind_some]
  induction items with
  | nil => rfl
  | cons a items ih =>
      obtain ⟨ha, hitems⟩ := List.forall_mem_cons.mp h
      rw [List.map_cons, List.mapM_cons, ha, ih hitems]
      rfl

end Decoder

/-! ### Entries -/

/-- Numbers of ports have 32 bits. -/
def Entry.Fits (e : Entry) : Prop :=
  ∀ p ∈ e.ports.getD [], -Int.pow 2 31 ≤ p.port ∧ p.port < Int.pow 2 31

theorem PortStatus.ofJson?_toJson {p : PortStatus}
    (h : -Int.pow 2 31 ≤ p.port ∧ p.port < Int.pow 2 31) :
    PortStatus.ofJson? p.toJson = some p := by
  obtain ⟨port, protocol, error⟩ := p
  have hport : int32 (.int port) = some port := by
    rw [int32, int?, Option.filter_some, if_pos (by simpa using h)]
  cases error <;>
    simp [ofJson?, toJson, ofMembers, obj?, withDefault, optional, member?, lookup, str?, hport]

theorem Entry.ofJson?_toJson {e : Entry} (h : e.Fits) : Entry.ofJson? e.toJson = some e := by
  obtain ⟨ip, hostname, ports⟩ := e
  cases ports with
  | none =>
      cases ip <;> cases hostname <;>
        simp [ofJson?, toJson, ofMembers, obj?, optional, member?, lookup, str?]
  | some ports =>
      have hports := list_map ports fun p hp => PortStatus.ofJson?_toJson (h p hp)
      cases ip <;> cases hostname <;>
        simp [ofJson?, toJson, ofMembers, obj?, optional, member?, lookup, str?, hports]

theorem list_toJson {entries : List Entry} (h : ∀ e ∈ entries, e.Fits) :
    list Entry.ofJson? (.arr (entries.map Entry.toJson)) = some entries :=
  list_map entries fun e he => Entry.ofJson?_toJson (h e he)

/-! ### An Ingress -/

theorem exists_obj_of_given {json value : Json} {name : String}
    (h : given? json name = some value) : ∃ members, json = .obj members := by
  cases json with
  | obj members => exact ⟨members, rfl⟩
  | _ => cases h

/-- A status with a list of entries has the addresses in that list. -/
theorem Status.ofJson?_of_entries {json : Json} {entries : List Entry}
    (h : json.at? ["loadBalancer", "ingress"] = some (.arr (entries.map Entry.toJson)))
    (hfits : ∀ e ∈ entries, e.Fits) :
    Status.ofJson? json = some { loadBalancer := some { entries := some entries } } := by
  obtain ⟨balancer, hbalancer, h⟩ := Option.bind_eq_some_iff.mp h
  obtain ⟨items, hitems, heq⟩ := Option.bind_eq_some_iff.mp h
  cases heq
  obtain ⟨members, rfl⟩ := exists_obj_of_given hbalancer
  obtain ⟨inner, rfl⟩ := exists_obj_of_given hitems
  rw [ofJson?, optional_of_given hbalancer Json.noConfusion]
  simp [obj?, optional_of_given hitems, list_toJson hfits]

/-- Metadata with another version are read the same but for it. -/
theorem Metadata.ofJson?_of_version {before after : Json} {version : String} {metadata : Metadata}
    (h : Metadata.ofJson? before = some metadata)
    (hset : SetAt ["resourceVersion"] (.str version) before after) :
    Metadata.ofJson? after = some { metadata with resourceVersion := some version } := by
  have hversion : given? after "resourceVersion" = some (.str version) := by
    rw [← at?_singleton]
    exact hset.there
  have hread : optional after "resourceVersion" str? = (str? (.str version)).map some :=
    optional_of_given hversion Json.noConfusion
  obtain ⟨members, rfl⟩ := exists_obj_of_given hversion
  have hsame : ∀ {α : Type} (read : Json → Option α) {name : String}, "resourceVersion" ≠ name →
      optional (.obj members) name read = optional before name read := fun read name hname =>
    optional_congr (hset.given?_of_ne hname)
  rw [ofJson?] at h ⊢
  simp only [Option.bind_eq_bind, Option.bind_eq_some_iff] at h
  obtain ⟨_, _, name, hname, space, hspace, labels, hlabels, annotations, hannotations, version', -,
    heq⟩ := h
  cases heq
  rw [hsame _ (by decide), hsame _ (by decide), hsame _ (by decide), hsame _ (by decide), hread,
    hname, hspace, hlabels, hannotations]
  rfl

/-- Metadata that are not there are read as if they were an object without members. -/
theorem Metadata.exists_of_withDefault {json : Json} {metadata : Metadata}
    (h : withDefault json "metadata" {} Metadata.ofJson? = some metadata) :
    ∃ value, Metadata.ofJson? value = some metadata ∧
      ∀ name, given? value name = given? ((given? json "metadata").getD .null) name := by
  rw [withDefault, optional, member?_eq_given?] at h
  cases hgiven : given? json "metadata" with
  | none =>
      rw [hgiven] at h
      cases h
      exact ⟨.obj [], rfl, fun name => rfl⟩
  | some value =>
      rw [hgiven] at h
      cases value with
      | null =>
          cases h
          exact ⟨.obj [], rfl, fun name => rfl⟩
      | _ =>
          simp only [Option.map_eq_some_iff] at h
          obtain ⟨_, ⟨metadata, hread, rfl⟩, rfl⟩ := h
          exact ⟨_, hread, fun name => rfl⟩

/-- Whether a value is an object of a kind depends on the members that say so. -/
theorem ofKind_congr {apiVersion kind : String} {before after : Json}
    (h : ofKind apiVersion kind before = some ()) (hobj : ∃ members, after = .obj members)
    (hversion : given? after "apiVersion" = given? before "apiVersion")
    (hkind : given? after "kind" = given? before "kind") :
    ofKind apiVersion kind after = some () := by
  obtain ⟨members, rfl⟩ := hobj
  simp only [ofKind, absentOr, Option.ite_none_right_eq_some, Bool.and_eq_true] at h ⊢
  rw [hversion, hkind]
  exact ⟨⟨⟨rfl, h.1.1.2⟩, h.1.2⟩, trivial⟩

/-- Reads what an Ingress asks for. -/
def IngressSpec.ofJson? (spec : Json) : Option IngressSpec := do
  let _ ← spec.obj?
  return { className := ← optional spec "ingressClassName" Json.str? }

/-- An Ingress is read part by part. -/
theorem Ingress.ofJson?_eq_some_iff {json : Json} {ing : Ingress} :
    Ingress.ofJson? json = some ing ↔
      ofKind "networking.k8s.io/v1" "Ingress" json = some () ∧
        withDefault json "metadata" {} Metadata.ofJson? = some ing.metadata ∧
        optional json "spec" IngressSpec.ofJson? = some ing.spec ∧
        optional json "status" Status.ofJson? = some ing.status := by
  have hread : Ingress.ofJson? json = (ofKind "networking.k8s.io/v1" "Ingress" json).bind fun _ =>
      (withDefault json "metadata" {} Metadata.ofJson?).bind fun metadata =>
        (optional json "spec" IngressSpec.ofJson?).bind fun spec =>
          (optional json "status" Status.ofJson?).bind fun status =>
            some { metadata, spec, status } := by
    simp only [ofJson?, Metadata.ofObject?, Option.bind_eq_bind, Option.bind_assoc]
    rfl
  rw [hread]
  simp only [Option.bind_eq_some_iff, Option.some.injEq]
  constructor
  · rintro ⟨_, hkind, metadata, hmetadata, spec, hspec, status, hstatus, rfl⟩
    exact ⟨hkind, hmetadata, hspec, hstatus⟩
  · rintro ⟨hkind, hmetadata, hspec, hstatus⟩
    exact ⟨(), hkind, _, hmetadata, _, hspec, _, hstatus, rfl⟩

section Ingress

variable {before after : Json} {ing : Ingress}

/-- An Ingress with other entries in its status is read as that Ingress with these published. -/
theorem Ingress.ofJson?_of_entries {entries : List Entry} (h : Ingress.ofJson? before = some ing)
    (hset : SetAt ["status", "loadBalancer", "ingress"] (.arr (entries.map Entry.toJson)) before
      after) (hfits : ∀ e ∈ entries, e.Fits) :
    Ingress.ofJson? after = some (ing.publish entries) := by
  obtain ⟨status, hstatus, hinner⟩ := hset.exists_member
  obtain ⟨hkind, hmetadata, hspec, -⟩ := Ingress.ofJson?_eq_some_iff.mp h
  have hsame : ∀ {name}, "status" ≠ name → given? after name = given? before name :=
    fun hname => hset.given?_of_ne hname
  have hvalue : status ≠ .null := by
    rintro rfl
    cases hinner.there
  refine Ingress.ofJson?_eq_some_iff.mpr ⟨?_, ?_, ?_, ?_⟩
  · exact ofKind_congr hkind (exists_obj_of_given hstatus) (hsame (by decide)) (hsame (by decide))
  · rw [withDefault, optional_congr (hsame (by decide))]
    exact hmetadata
  · rw [optional_congr (hsame (by decide))]
    exact hspec
  · rw [optional_of_given hstatus hvalue, Status.ofJson?_of_entries hinner.there hfits]
    rfl

/-- An Ingress with another version is read the same but for it. -/
theorem Ingress.ofJson?_of_version {version : String} (h : Ingress.ofJson? before = some ing)
    (hset : SetAt ["metadata", "resourceVersion"] (.str version) before after) :
    Ingress.ofJson? after
      = some { ing with metadata := { ing.metadata with resourceVersion := some version } } := by
  obtain ⟨metadata, hmetadata, hinner⟩ := hset.exists_member
  obtain ⟨hkind, hread, hspec, hstatus⟩ := Ingress.ofJson?_eq_some_iff.mp h
  have hsame : ∀ {name}, "metadata" ≠ name → given? after name = given? before name :=
    fun hname => hset.given?_of_ne hname
  have hvalue : metadata ≠ .null := by
    rintro rfl
    cases hinner.there
  refine Ingress.ofJson?_eq_some_iff.mpr ⟨?_, ?_, ?_, ?_⟩
  · exact ofKind_congr hkind (exists_obj_of_given hmetadata) (hsame (by decide)) (hsame (by decide))
  · obtain ⟨old, hold, hmembers⟩ := Metadata.exists_of_withDefault hread
    rw [withDefault, optional_of_given hmetadata hvalue,
      Metadata.ofJson?_of_version hold (hinner.congr hmembers)]
    rfl
  · rw [optional_congr (hsame (by decide))]
    exact hspec
  · rw [optional_congr (hsame (by decide))]
    exact hstatus

end Ingress

end IngressController.Object
