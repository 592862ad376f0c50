import IngressController.Proofs.TcpService.Selection
import IngressController.Proofs.TcpService.Table
import IngressController.Proofs.Text.Numeral

/-!
# `IngressController.Proofs.TcpService.Endpoints`: the servers of a backend

The servers of a backend are the ready addresses behind the port of its Service. The endpoints list
them in subsets: a subset that has no port of the name of the Service's port adds nothing, any other
all of its ready addresses, with the number of the first port of that name. An address is neither
left out nor listed once more, the order is that of the endpoints, and addresses that are not ready
make no difference. A list that is missing counts as empty, as does a name that is missing.

Servers are named by their positions in three digits, or in as many as it takes. The name tells the
position, so that no two servers of a backend share one, however many there are.

* `Gathered`: some addresses are those that serve a port, subset by subset.
* `Lists`: the servers of a backend, their addresses and their names.
* `servers_of_convert`: the backend of an entry has these servers, whatever the look-ups answer.
-/

set_option autoImplicit false

namespace IngressController.TcpService

open Object

/-! ### What endpoints list -/

/-- The subsets of endpoints that may be missing. -/
def subsetsOf (endpoints? : Option Endpoints) : List Subset :=
  (endpoints?.bind (·.subsets)).getD []

/-- The ports of a subset. -/
def portsOf (subset : Subset) : List EndpointPort :=
  subset.ports.getD []

/-- The ready addresses of a subset. -/
def readyOf (subset : Subset) : List EndpointAddress :=
  subset.addresses.getD []

/-- A port of a subset has a name, where a missing name counts as empty. -/
def HasName (name : String) (port : EndpointPort) : Prop :=
  port.name.getD "" = name

instance (name : String) : DecidablePred (HasName name) :=
  fun port => inferInstanceAs (Decidable (port.name.getD "" = name))

/-- A subset has a port of a name. -/
def HasPort (name : String) (subset : Subset) : Prop :=
  ∃ port ∈ portsOf subset, HasName name port

instance (name : String) : DecidablePred (HasPort name) :=
  fun subset => inferInstanceAs (Decidable (∃ port ∈ portsOf subset, HasName name port))

/-- An address at a port of its subset. -/
def atPort (port : EndpointPort) (address : EndpointAddress) : PortAddress where
  ip := address.ip
  port := port.port
  target := podText address.targetRef

/-- Some addresses are those that serve a port of a name: the ready addresses of every subset with a
port of the name, each at the first such port of its own subset. -/
def Gathered (name : String) (subsets : List Subset) (addresses : List PortAddress) : Prop :=
  ∃ parts : List (Subset × EndpointPort),
    parts.map Prod.fst = subsets.filter (HasPort name)
    ∧ (∀ part ∈ parts, IsFirst (HasName name) (portsOf part.1) part.2)
    ∧ addresses = parts.flatMap fun part => (readyOf part.1).map (atPort part.2)

/-- The addresses that serve a port of a Service, by endpoints that may be missing. -/
def addressesBehind (endpoints? : Option Endpoints) (port : ServicePort) : List PortAddress :=
  (subsetsOf endpoints?).flatMap (Subset.serving · (port.name.getD ""))

section Gathered

variable {name : String} {subset : Subset} {port : EndpointPort} {subsets : List Subset}
  {addresses : List PortAddress}

theorem port?_eq_some_iff :
    Subset.port? subset name = some port ↔ IsFirst (HasName name) (portsOf subset) port :=
  find?_eq_some_iff_isFirst fun _ => beq_iff_eq

theorem port?_eq_none_iff : Subset.port? subset name = none ↔ ¬ HasPort name subset := by
  rw [Subset.port?, find?_eq_none_iff_forall (P := HasName name) fun _ => beq_iff_eq, HasPort]
  simp only [not_exists, not_and, portsOf]

/-- A subset without a port of the name adds nothing. -/
theorem serving_of_not_hasPort (h : ¬ HasPort name subset) : Subset.serving subset name = [] := by
  rw [Subset.serving, port?_eq_none_iff.mpr h]

/-- Any other one adds all of its ready addresses. -/
theorem serving_of_isFirst (h : IsFirst (HasName name) (portsOf subset) port) :
    Subset.serving subset name = (readyOf subset).map (atPort port) := by
  rw [Subset.serving, port?_eq_some_iff.mpr h]
  rfl

theorem gathered_nil : Gathered name [] [] :=
  ⟨[], rfl, by simp, rfl⟩

/-- The addresses that the subsets add one after another are those that serve the port. -/
theorem gathered_flatMap (name : String) (subsets : List Subset) :
    Gathered name subsets (subsets.flatMap (Subset.serving · name)) := by
  -- Each subset with the port becomes a part; the first port of the name is found beside it.
  induction subsets with
  | nil => exact gathered_nil
  | cons subset subsets ih =>
      obtain ⟨parts, hsubsets, hfirst, haddresses⟩ := ih
      rw [List.flatMap_cons, haddresses]
      cases hport : Subset.port? subset name with
      | none =>
          have hnone : ¬ HasPort name subset := port?_eq_none_iff.mp hport
          refine ⟨parts, ?_, hfirst, ?_⟩
          · rw [List.filter_cons_of_neg (by simpa using hnone), hsubsets]
          · rw [serving_of_not_hasPort hnone, List.nil_append]
      | some port =>
          have hhere := port?_eq_some_iff.mp hport
          have hsome : HasPort name subset := ⟨port, hhere.mem, hhere.1⟩
          refine ⟨(subset, port) :: parts, ?_, List.forall_mem_cons.mpr ⟨hhere, hfirst⟩, ?_⟩
          · rw [List.filter_cons_of_pos (by simpa using hsome), List.map_cons, hsubsets]
          · rw [serving_of_isFirst hhere, List.flatMap_cons]

/-- What a list of subsets with the port adds is what its parts add. -/
theorem flatMap_serving_of_parts {parts : List (Subset × EndpointPort)}
    (hfirst : ∀ part ∈ parts, IsFirst (HasName name) (portsOf part.1) part.2) :
    (parts.map Prod.fst).flatMap (Subset.serving · name)
      = parts.flatMap fun part => (readyOf part.1).map (atPort part.2) := by
  induction parts with
  | nil => rfl
  | cons part parts ih =>
      obtain ⟨hhere, hrest⟩ := List.forall_mem_cons.mp hfirst
      rw [List.map_cons, List.flatMap_cons, List.flatMap_cons, serving_of_isFirst hhere, ih hrest]

/-- Subsets without the port can be passed over. -/
theorem flatMap_serving_filter (name : String) (subsets : List Subset) :
    (subsets.filter (HasPort name)).flatMap (Subset.serving · name)
      = subsets.flatMap (Subset.serving · name) := by
  induction subsets with
  | nil => rfl
  | cons subset subsets ih =>
      by_cases h : HasPort name subset
      · rw [List.filter_cons_of_pos (by simpa using h), List.flatMap_cons, List.flatMap_cons, ih]
      · rw [List.filter_cons_of_neg (by simpa using h), List.flatMap_cons,
          serving_of_not_hasPort h, List.nil_append, ih]

/-- There is one list of the addresses that serve a port. -/
theorem gathered_iff :
    Gathered name subsets addresses ↔ addresses = subsets.flatMap (Subset.serving · name) := by
  constructor
  · rintro ⟨parts, hsubsets, hfirst, rfl⟩
    rw [← flatMap_serving_of_parts hfirst, hsubsets, flatMap_serving_filter]
  · rintro rfl
    exact gathered_flatMap name subsets

end Gathered

/-! ### Servers -/

/-- The address of a server. -/
def Endpoint.address (server : Endpoint) : PortAddress where
  ip := server.ip
  port := server.port
  target := server.target

/-- Two subsets have the same ports and the same ready addresses. -/
def SameReady (a b : Subset) : Prop :=
  portsOf a = portsOf b ∧ readyOf a = readyOf b

/-- Servers are listed for a port of a Service, by the endpoints of the Service if there are any. -/
structure Lists (endpoints? : Option Endpoints) (port : ServicePort) (servers : List Endpoint) :
    Prop where
  /-- There is a server for every ready address that serves the port, and no other, in order. -/
  gathered : Gathered (port.name.getD "") (subsetsOf endpoints?) (servers.map Endpoint.address)
  /-- Other endpoints list the same servers if just the addresses that are not ready differ. -/
  unready : ∀ other?, List.Forall₂ SameReady (subsetsOf endpoints?) (subsetsOf other?) →
    Gathered (port.name.getD "") (subsetsOf other?) (servers.map Endpoint.address)
  /-- The name of a server is its position, counted from one, in at least three digits. -/
  named : ∀ (i : Nat) (h : i < servers.length),
    servers[i].name = "srv" ++ String.ofList ((Nat.toDigits 10 (i + 1)).leftpad 3 '0')
  /-- The names differ from each other. -/
  distinct : (servers.map (·.name)).Nodup

section Lists

variable {endpoints? : Option Endpoints} {port : ServicePort} {servers : List Endpoint}

theorem endpointName_eq (position : Nat) :
    endpointName position
      = "srv" ++ String.ofList ((Nat.toDigits 10 position).leftpad 3 '0') := by
  rw [endpointName, ← Text.toList_zeroPadded, String.ofList_toList]

/-- The name of a server tells its position. -/
theorem endpointName_inj {m n : Nat} : endpointName m = endpointName n ↔ m = n := by
  rw [endpointName, endpointName, String.append_right_inj, Text.zeroPadded_inj]

example : endpointName 7 = "srv007" ∧ endpointName 1000 = "srv1000" := by decide +kernel

/-- The servers for some addresses have these addresses. -/
theorem map_address_endpointsOf (addresses : List PortAddress) :
    (endpointsOf addresses).map Endpoint.address = addresses :=
  List.ext_getElem (by simp [endpointsOf]) fun i _ _ => by simp [endpointsOf, Endpoint.address]

/-- Servers that are named by their positions are told by their addresses. -/
theorem eq_endpointsOf_map_address
    (h : ∀ (i : Nat) (hi : i < servers.length), servers[i].name = endpointName (i + 1)) :
    servers = endpointsOf (servers.map Endpoint.address) :=
  List.ext_getElem (by simp [endpointsOf]) fun i hi _ => by
    simp [endpointsOf, Endpoint.address, ← h i hi]

/-- Different servers have different names. -/
theorem nodup_name_endpointsOf (addresses : List PortAddress) :
    ((endpointsOf addresses).map (·.name)).Nodup := by
  rw [List.Nodup, List.pairwise_iff_getElem]
  intro i j _ _ hij
  have hposition : i + 1 ≠ j + 1 := by omega
  simpa [endpointsOf] using mt endpointName_inj.mp hposition

/-- What is listed depends on the ports and the ready addresses only. -/
theorem flatMap_serving_congr {name : String} {subsets others : List Subset}
    (h : List.Forall₂ SameReady subsets others) :
    subsets.flatMap (Subset.serving · name) = others.flatMap (Subset.serving · name) := by
  induction h with
  | nil => rfl
  | @cons a b _ _ hab _ ih =>
      have hserving : Subset.serving a name = Subset.serving b name := by
        obtain ⟨hports, hready⟩ := hab
        rw [portsOf, portsOf] at hports
        rw [readyOf, readyOf] at hready
        rw [Subset.serving, Subset.serving, Subset.port?, Subset.port?, hports, hready]
      rw [List.flatMap_cons, List.flatMap_cons, hserving, ih]

/-- The servers are those for the addresses that the subsets add. -/
theorem lists_iff :
    Lists endpoints? port servers ↔ servers = endpointsOf (addressesBehind endpoints? port) := by
  constructor
  · intro h
    rw [addressesBehind, ← gathered_iff.mp h.gathered]
    exact eq_endpointsOf_map_address fun i hi => (h.named i hi).trans (endpointName_eq _).symm
  · rintro rfl
    refine ⟨?_, fun other? hother => ?_, fun i hi => ?_, nodup_name_endpointsOf _⟩
    · rw [gathered_iff, map_address_endpointsOf, addressesBehind]
    · rw [gathered_iff, map_address_endpointsOf, addressesBehind, flatMap_serving_congr hother]
    · rw [← endpointName_eq]
      simp [endpointsOf]

/-- The look-up of the addresses answers with those that the subsets add. -/
theorem servers_eq_ok_iff {l : Lookups} {service : Service} {addresses : List PortAddress} :
    l.servers service port = .ok addresses ↔ ∃ endpoints?, l.endpoints service = .ok endpoints?
      ∧ addressesBehind endpoints? port = addresses := by
  rw [Lookups.servers]
  cases l.endpoints service with
  | error e => simp [Except.map]
  | ok endpoints? =>
      cases endpoints? <;> simp [Except.map, addressesBehind, subsetsOf, addressesOf]

end Lists

/-! ### The backend of an entry -/

/-- What becomes of an entry that can be read is what becomes of its directive. -/
theorem convert_of_parse {l : Lookups} {key directive : String} {d : Directive}
    (h : Directive.parse key directive = .ok d) : l.convert key directive = l.resolve d := by
  rw [Lookups.convert, h]

/-- A directive whose Service, port, certificate and endpoints are found has a backend, with the
servers that these endpoints list for this port, whatever they are and even if there are none. And
no other backend is ever made: each one has the servers that the endpoints of its Service list for
the port that its entry selects. -/
theorem servers_of_convert (l : Lookups) (key directive : String) :
    (∀ d service port path endpoints?, Directive.parse key directive = .ok d →
      l.Selects d service port → l.certificateOf d = .ok (.ok path) →
      l.endpoints service = .ok endpoints? →
      ∃ backend, l.convert key directive = .ok (.ok backend)
        ∧ Lists endpoints? port backend.endpoints)
    ∧ ∀ backend, l.convert key directive = .ok (.ok backend) →
      ∃ d service port endpoints?, Directive.parse key directive = .ok d
        ∧ l.Selects d service port ∧ l.endpoints service = .ok endpoints?
        ∧ Lists endpoints? port backend.endpoints := by
  constructor
  · intro d service port path endpoints? hread hd hpath hendpoints
    have hservers : l.servers service port = .ok (addressesBehind endpoints? port) :=
      servers_eq_ok_iff.mpr ⟨endpoints?, hendpoints, rfl⟩
    rw [convert_of_parse hread, resolve_of_selects hd, Lookups.serve, hpath]
    show ∃ backend, Except.map _ (l.servers service port) = _ ∧ _
    rw [hservers]
    exact ⟨_, rfl, lists_iff.mpr rfl⟩
  · intro backend hbackend
    cases hread : Directive.parse key directive with
    | error skip => rw [Lookups.convert, hread] at hbackend; cases hbackend
    | ok d =>
        rw [convert_of_parse hread] at hbackend
        obtain ⟨service, port, path, addresses, hd, -, hservers, rfl⟩ :=
          exists_selects_of_resolve hbackend
        obtain ⟨endpoints?, hendpoints, rfl⟩ := servers_eq_ok_iff.mp hservers
        exact ⟨d, service, port, endpoints?, rfl, hd, hendpoints, lists_iff.mpr rfl⟩

/-- The endpoints of a Service with a port `http`: a subset without this port, one that has it
twice, with an address that is not ready, and one that repeats an address. -/
def webEndpoints : Endpoints where
  subsets := some [
    { addresses := some [{ ip := "10.0.0.9" }], ports := some [{ port := 53 }] },
    { addresses := some [{ ip := "10.0.0.1", targetRef := some { name := some "web" } }]
      notReadyAddresses := some [{ ip := "10.0.0.2" }]
      ports := some [{ port := 53 }, { name := some "http", port := 8080 },
        { name := some "http", port := 8081 }] },
    { addresses := some [{ ip := "10.0.0.3" }, { ip := "10.0.0.1" }]
      ports := some [{ name := some "http", port := 9090 }] }]

/-- The port `http`. -/
def webPort : ServicePort where
  name := some "http"
  port := 80

/-- Look-ups that find this Service and these endpoints. -/
def webLookups : Lookups where
  service _ _ := .ok (some { spec := some { ports := some [webPort] } })
  endpoints _ := .ok (some webEndpoints)
  certificatePath _ := .ok none

/-- Three servers, at the port of the subset that each is from. -/
theorem servers_of_webEndpoints : ∃ backend,
    webLookups.convert "80" "default/web:http" = .ok (.ok backend)
      ∧ Lists (some webEndpoints) webPort backend.endpoints
      ∧ backend.endpoints = [
        { name := "srv001", ip := "10.0.0.1", port := 8080, target := "/web" },
        { name := "srv002", ip := "10.0.0.3", port := 9090, target := "" },
        { name := "srv003", ip := "10.0.0.1", port := 9090, target := "" }] := by
  obtain ⟨backend, hbackend, hlists⟩ :=
    (servers_of_convert webLookups "80" "default/web:http").1
      { publicPort := 80, service := "default/web", port := "http", proxy := {}, secret := "" }
      { spec := some { ports := some [webPort] } } webPort "" (some webEndpoints)
      (by decide +kernel) ⟨⟨⟨"default", "web"⟩, by decide +kernel, rfl⟩, by decide +kernel⟩ rfl rfl
  refine ⟨backend, hbackend, hlists, ?_⟩
  rw [lists_iff.mp hlists]
  decide +kernel

end IngressController.TcpService
