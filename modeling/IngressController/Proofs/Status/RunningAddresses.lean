import IngressController.Proofs.NameReference
import IngressController.Proofs.Status.Addresses
import IngressController.Proofs.Status.Withdrawal
import IngressController.Proofs.TcpService.Selection
import Mathlib.Data.List.ReduceOption

/-!
# `IngressController.Proofs.Status.RunningAddresses`: where the controller can be reached

The running addresses are either those of the nodes on which the pods of the controller run, or
those of a Service. Every call for them can fail, but not every failure counts. The list of pods
and the Service have to be read, and the reference to the Service has to be a strict one. A node
that cannot be read, or that has no address of the wanted kind, is passed over, and all other nodes
count as if it were not there.

The statements are about all ways in which the calls can be answered, where an answer may depend on
the calls before it: `podsRead`, `nodesRead` and `serviceRead` are the answers in the order in which
they are asked for. On a cluster in memory, with any calls that are to fail, they are what it holds.

* `Contributes`: the address that the node of a pod contributes, if any.
* `FirstSeen`: a list without its duplicates, in the order in which its elements are first seen.
* `Entry.Gives`: the address of a load balancer entry, if any.
* `findsAddresses_from_readings`: when there are running addresses, and which, for all answers and
  for what a cluster in memory holds.
-/

set_option autoImplicit false

namespace IngressController

open Object

/-! ### What single objects give -/

namespace Object

/-- An address of a node counts: it is of the wanted kind, and not empty. -/
def NodeAddress.Counts (internal : Bool) (a : NodeAddress) : Prop :=
  a.kind = NodeAddress.kindText internal ∧ a.address ≠ ""

/-- The addresses that a node lists. -/
def Node.listed (node : Node) : List NodeAddress :=
  (node.status.bind (·.addresses)).getD []

/-- The entries of the load balancer of a Service. -/
def Service.entries (service : Service) : List Entry :=
  (Status.entries? service.status).getD []

/-- The external IPs of a Service. -/
def Service.external (service : Service) : List String :=
  (service.spec.bind (·.externalIps)).getD []

/-- The address that a load balancer entry gives: its IP if that is not empty, or else its host name
if that is not empty. -/
inductive Entry.Gives (e : Entry) : Option String → Prop
  | ip (hip : e.ipText ≠ "") : e.Gives (some e.ipText)
  | hostname (hip : e.ipText = "") (hhost : e.hostText ≠ "") : e.Gives (some e.hostText)
  | nothing (hip : e.ipText = "") (hhost : e.hostText = "") : e.Gives none

end Object

namespace Status

open TcpService (IsFirst find?_eq_some_iff_isFirst find?_eq_none_iff_forall)

/-- The address that a node contributes: the first one of the wanted kind that is not empty. A node
without one, or one that cannot be read, contributes nothing. -/
inductive Contributes (internal : Bool) : Except Cluster.Failure Node → Option String → Prop
  | address {node : Node} {a : NodeAddress} (h : IsFirst (·.Counts internal) node.listed a) :
      Contributes internal (.ok node) (some a.address)
  | noAddress {node : Node} (h : ∀ a ∈ node.listed, ¬ a.Counts internal) :
      Contributes internal (.ok node) none
  | unreadable (failure : Cluster.Failure) : Contributes internal (.error failure) none

/-- The address of a node that has been read. -/
def contribution (internal : Bool) (outcome : Except Cluster.Failure Node) : Option String :=
  outcome.toOption.bind (·.address? internal)

/-- A search looks for the addresses that count. -/
theorem counts_iff (internal : Bool) (a : NodeAddress) :
    (a.kind == NodeAddress.kindText internal && !a.address.isEmpty) = true
      ↔ a.Counts internal := by
  rw [NodeAddress.Counts, Bool.and_eq_true, beq_iff_eq, Bool.not_eq_true', ← Bool.not_eq_true,
    String.isEmpty_iff]

/-- A node without a list of addresses lists none. -/
theorem address?_eq (node : Node) (internal : Bool) :
    node.address? internal = (node.listed.find? fun a =>
      a.kind == NodeAddress.kindText internal && !a.address.isEmpty).map (·.address) := by
  rw [Node.address?, Node.listed]
  cases node.status with
  | none => rfl
  | some status =>
      cases haddresses : status.addresses with
      | none => simp [haddresses]
      | some addresses => simp [haddresses, Option.map_eq_bind]

/-- What an outcome contributes is the address of the node that has been read. -/
theorem contributes_iff (internal : Bool) (outcome : Except Cluster.Failure Node)
    (x : Option String) :
    Contributes internal outcome x ↔ x = contribution internal outcome := by
  cases outcome with
  | error failure =>
      constructor
      · rintro ⟨⟩
        rfl
      · rintro rfl
        exact .unreadable failure
  | ok node =>
      rw [contribution, Except.toOption, Option.bind_some, address?_eq]
      constructor
      · rintro (h | h)
        · rw [(find?_eq_some_iff_isFirst (counts_iff internal)).mpr h]
          rfl
        · rw [(find?_eq_none_iff_forall (counts_iff internal)).mpr h]
          rfl
      · rintro rfl
        cases hfound : node.listed.find? _ with
        | some a => exact .address ((find?_eq_some_iff_isFirst (counts_iff internal)).mp hfound)
        | none => exact .noAddress ((find?_eq_none_iff_forall (counts_iff internal)).mp hfound)

/-- A text that is missing counts as empty. -/
theorem nonempty_eq (text : Option String) :
    nonempty text = if text.getD "" = "" then none else some (text.getD "") := by
  cases text with
  | none => rfl
  | some text => by_cases htext : text = "" <;> simp [nonempty, htext]

/-- The address of an entry is the first of its two texts that is not empty. -/
theorem addressOf_eq (e : Entry) :
    addressOf e = if e.ipText = "" then if e.hostText = "" then none else some e.hostText
      else some e.ipText := by
  have hip : nonempty e.ip = if e.ipText = "" then none else some e.ipText := nonempty_eq e.ip
  rw [addressOf, hip]
  split
  · exact nonempty_eq e.hostname
  · next hne =>
      show nonempty (some e.ipText) = _
      rw [nonempty_eq]
      exact if_neg hne

/-- What an entry gives is its address. -/
theorem gives_iff (e : Entry) (x : Option String) : e.Gives x ↔ x = addressOf e := by
  rw [addressOf_eq]
  constructor
  · rintro (hip | ⟨hip, hhost⟩ | ⟨hip, hhost⟩)
    · rw [if_neg hip]
    · rw [if_pos hip, if_neg hhost]
    · rw [if_pos hip, if_pos hhost]
  · rintro rfl
    split
    · next hip =>
        split
        · next hhost => exact .nothing hip hhost
        · next hhost => exact .hostname hip hhost
    · next hip => exact .ip hip

/-! ### References -/

/-- A text is read as the strict reference that it is. -/
theorem readReference_eq_ok_iff {text : String} {r : NameReference} :
    readReference text = .ok r ↔ NameReference.IsStrict text r := by
  rw [← NameReference.parse?_eq_some_iff, readReference]
  cases NameReference.parse? text <;> simp

/-- A text that is none is reported. -/
theorem readReference_eq_error_iff {text : String} {e : Error} :
    readReference text = .error e
      ↔ (∀ r, ¬ NameReference.IsStrict text r) ∧ e = .invalidName text := by
  rw [← NameReference.parse?_eq_none_iff, readReference]
  cases NameReference.parse? text <;> simp [eq_comm]

/-! ### Lists of what may be nothing -/

/-- Lists whose elements are related one by one to what may be nothing, by a relation that is a
function: what is not nothing is what the function gives. -/
theorem exists_forall₂_reduceOption_iff {α β : Type} {R : α → Option β → Prop} {f : α → Option β}
    (h : ∀ a x, R a x ↔ x = f a) (as : List α) (P : List β → Prop) :
    (∃ xs, List.Forall₂ R as xs ∧ P xs.reduceOption) ↔ P (as.filterMap f) := by
  have hreduce : (as.map f).reduceOption = as.filterMap f := by
    rw [List.reduceOption, List.filterMap_map, Function.id_comp]
  simp only [forall₂_iff_eq_map h, exists_eq_left, hreduce]

/-! ### Without duplicates -/

/-- A list is another one without its duplicates, in the order in which its elements are first
seen. -/
structure FirstSeen (xs ys : List String) : Prop where
  nodup : ys.Nodup
  mem_iff : ∀ x, x ∈ ys ↔ x ∈ xs
  ordered : ys.Pairwise fun a b => xs.idxOf a < xs.idxOf b

namespace FirstSeen

variable {xs ys zs : List String}

/-- There is one such list. -/
theorem unique (hy : FirstSeen xs ys) (hz : FirstSeen xs zs) : ys = zs := by
  have hperm : ys.Perm zs :=
    (List.perm_ext_iff_of_nodup hy.nodup hz.nodup).mpr fun x =>
      (hy.mem_iff x).trans (hz.mem_iff x).symm
  exact hperm.eq_of_pairwise (fun a b _ _ hab hba => absurd hab (Nat.lt_asymm hba)) hy.ordered
    hz.ordered

/-- An element that comes last is added unless it has been seen. -/
theorem addAddress (h : FirstSeen xs ys) (x : String) :
    FirstSeen (xs ++ [x]) (Status.addAddress ys x) := by
  -- Where an element is first seen does not change when another one comes after it.
  have hindex : ∀ a ∈ ys, (xs ++ [x]).idxOf a = xs.idxOf a := fun a ha =>
    List.idxOf_append_of_mem ((h.mem_iff a).mp ha)
  have hordered : ys.Pairwise fun a b => (xs ++ [x]).idxOf a < (xs ++ [x]).idxOf b := by
    refine h.ordered.imp_of_mem fun ha hb hab => ?_
    rwa [hindex _ ha, hindex _ hb]
  rw [Status.addAddress]
  split
  · next hseen =>
      rw [List.contains_iff_mem] at hseen
      refine ⟨h.nodup, fun a => ?_, hordered⟩
      rw [List.mem_append, List.mem_singleton, ← h.mem_iff]
      exact ⟨.inl, fun ha => ha.elim id fun hax => hax ▸ hseen⟩
  · next hnew =>
      rw [List.contains_iff_mem] at hnew
      have hlast : x ∉ xs := fun hx => hnew ((h.mem_iff x).mpr hx)
      refine ⟨?_, fun a => ?_, ?_⟩
      · exact List.nodup_append.mpr ⟨h.nodup, List.pairwise_singleton _ x, fun a ha b hb hab =>
          hnew (List.mem_singleton.mp hb ▸ hab ▸ ha)⟩
      · rw [List.mem_append, List.mem_append, h.mem_iff]
      · refine List.pairwise_append.mpr ⟨hordered, List.pairwise_singleton _ _, fun a ha b hb => ?_⟩
        rw [List.mem_singleton.mp hb, hindex a ha, List.idxOf_append_of_notMem hlast]
        exact Nat.lt_add_right _ (List.idxOf_lt_length_of_mem ((h.mem_iff a).mp ha))

/-- Elements that come at the end are added one after the other. -/
theorem foldl_addAddress (h : FirstSeen xs ys) (zs : List String) :
    FirstSeen (xs ++ zs) (zs.foldl Status.addAddress ys) := by
  induction zs generalizing xs ys with
  | nil => rwa [List.append_nil]
  | cons z zs ih =>
      rw [List.append_cons]
      exact ih (h.addAddress z)

end FirstSeen

/-- The list without duplicates is put together by adding its elements one after the other. -/
theorem firstSeen_iff {xs ys : List String} : FirstSeen xs ys ↔ ys = xs.foldl addAddress [] := by
  have hempty : FirstSeen [] [] := ⟨List.nodup_nil, fun _ => Iff.rfl, List.Pairwise.nil⟩
  have hfold : FirstSeen xs (xs.foldl addAddress []) := hempty.foldl_addAddress xs
  constructor
  · exact fun h => h.unique hfold
  · rintro rfl
    exact hfold

/-! ### What is read -/

section Readings

variable {σ : Type} (answers : Program.Answers Ask.Answer σ)

/-- What the list of the pods of the controller is read as, and the state after that. -/
def podsRead (pod : PodDetails) (s : σ) : Except Cluster.Failure (List Pod) × σ :=
  ((answers (.call (.listPods pod.namespaceName pod.selector))).run s).value

/-- What the nodes of some pods are read as, one after the other. -/
def nodesRead : List Pod → σ → List (Except Cluster.Failure Node)
  | [], _ => []
  | pod :: pods, s =>
    let read := ((answers (.call (.getNode pod.nodeText))).run s).value
    read.1 :: nodesRead pods read.2

/-- What the Service of a reference is read as. -/
def serviceRead (r : NameReference) (s : σ) : Except Cluster.Failure Service :=
  ((answers (.call (.getService r.namespaceName r.name))).run s).value.1

/-- A call is answered, and that is all. -/
theorem value_run_call (c : Cluster.Call) (s : σ) :
    (((call c).run answers).run s).value = ((answers (.call c)).run s).value := rfl

/-- The address of a node is what the outcome of reading it contributes. -/
theorem value_run_nodeAddress (name : String) (internal : Bool) (s : σ) :
    (((nodeAddress name internal).run answers).run s).value
      = (contribution internal ((answers (.call (.getNode name))).run s).value.1,
        ((answers (.call (.getNode name))).run s).value.2) := by
  rw [nodeAddress, Program.value_run_bind, value_run_call]
  cases ((answers (.call (.getNode name))).run s).value.1 <;> rfl

/-- The addresses of nodes are added one after the other, as far as there are any. -/
theorem value_run_nodeAddresses (internal : Bool) (found : List String) (pods : List Pod) (s : σ) :
    (((nodeAddresses internal found pods).run answers).run s).value.1
      = ((nodesRead answers pods s).filterMap (contribution internal)).foldl addAddress found := by
  -- Each node leaves another list for the next one, and its call another state.
  induction pods generalizing found s with
  | nil => rfl
  | cons pod pods ih =>
      rw [nodeAddresses, Program.value_run_bind, value_run_nodeAddress, nodesRead,
        List.filterMap_cons]
      cases contribution internal ((answers (.call (.getNode pod.nodeText))).run s).value.1 with
      | none => exact ih found _
      | some address => exact ih _ _

/-- The addresses that a controller finds if it is to publish those of its nodes:

- `error`: there are none only if the pods cannot be listed;
- `value`: they are what the nodes of the pods contribute, each once, as first seen. -/
structure FindsNodes (internal : Bool) (pod : PodDetails) (s : σ)
    (result : Except Error (List String)) : Prop where
  error : ∀ e, result = .error e
    ↔ ∃ failure, (podsRead answers pod s).1 = .error failure ∧ e = .cluster failure
  value : ∀ addresses, result = .ok addresses
    ↔ ∃ pods contributions, (podsRead answers pod s).1 = .ok pods
      ∧ List.Forall₂ (Contributes internal)
        (nodesRead answers pods (podsRead answers pod s).2) contributions
      ∧ FirstSeen contributions.reduceOption addresses

/-- The addresses that a controller finds if it is to publish those of the Service that a text
refers to:

- `error`: there are none only if the text is no strict reference or the Service cannot be read;
- `value`: they are what the entries of the load balancer give, and then the external IPs. -/
structure FindsService (text : String) (s : σ) (result : Except Error (List String)) : Prop where
  error : ∀ e, result = .error e
    ↔ (∀ r, ¬ NameReference.IsStrict text r) ∧ e = .invalidName text
      ∨ ∃ r failure, NameReference.IsStrict text r ∧ serviceRead answers r s = .error failure
        ∧ e = .cluster failure
  value : ∀ addresses, result = .ok addresses
    ↔ ∃ r service given, NameReference.IsStrict text r ∧ serviceRead answers r s = .ok service
      ∧ List.Forall₂ Entry.Gives service.entries given
      ∧ addresses = given.reduceOption ++ service.external

/-- The addresses that a controller finds: those of its nodes, unless it is to publish those of a
Service. -/
structure FindsAddresses (config : Config) (pod : PodDetails) (s : σ)
    (result : Except Error (List String)) : Prop where
  nodes : config.publishService = "" →
    FindsNodes answers config.useNodeInternalIp pod s result
  service : config.publishService ≠ "" → FindsService answers config.publishService s result

/-- The addresses of nodes, from what is read. -/
theorem value_run_runningAddresses_of_nodes {config : Config} (hnodes : config.publishService = "")
    (pod : PodDetails) (s : σ) :
    (((runningAddresses config pod).run answers).run s).value.1
      = match (podsRead answers pod s).1 with
        | .error failure => .error (.cluster failure)
        | .ok pods =>
          .ok (((nodesRead answers pods (podsRead answers pod s).2).filterMap
            (contribution config.useNodeInternalIp)).foldl addAddress []) := by
  rw [runningAddresses, if_pos hnodes, Program.value_run_bind, listOwnPods, value_run_call,
    ← podsRead]
  cases (podsRead answers pod s).1 with
  | error failure => rfl
  | ok pods =>
      show (((nodeAddresses config.useNodeInternalIp [] pods >>= _).run answers).run _).value.1 = _
      rw [Program.value_run_bind]
      exact congrArg Except.ok (value_run_nodeAddresses answers _ [] pods _)

/-- The addresses of a Service, from what is read. -/
theorem value_run_runningAddresses_of_service {config : Config}
    (hservice : config.publishService ≠ "") (pod : PodDetails) (s : σ) :
    (((runningAddresses config pod).run answers).run s).value.1
      = match readReference config.publishService with
        | .error e => .error e
        | .ok r =>
          match serviceRead answers r s with
          | .error failure => .error (.cluster failure)
          | .ok service => .ok (serviceAddresses service) := by
  rw [runningAddresses, if_neg hservice]
  cases readReference config.publishService with
  | error e => rfl
  | ok r =>
      show (((call (.getService r.namespaceName r.name) >>= _).run answers).run s).value.1
        = match serviceRead answers r s with
          | .error failure => Except.error (Error.cluster failure)
          | .ok service => Except.ok (serviceAddresses service)
      rw [Program.value_run_bind, value_run_call, serviceRead]
      cases ((answers (.call (.getService r.namespaceName r.name))).run s).value.1 <;> rfl

/-- A controller finds the addresses of its nodes. -/
theorem findsNodes_runningAddresses {config : Config} (hnodes : config.publishService = "")
    (pod : PodDetails) (s : σ) :
    FindsNodes answers config.useNodeInternalIp pod s
      (((runningAddresses config pod).run answers).run s).value.1 := by
  rw [value_run_runningAddresses_of_nodes answers hnodes]
  cases hlist : (podsRead answers pod s).1 with
  | error failure =>
      refine ⟨fun e => ?_, fun addresses => ?_⟩
      · simp [hlist, eq_comm]
      · simp [hlist]
  | ok pods =>
      have hfound := fun addresses => exists_forall₂_reduceOption_iff
        (contributes_iff config.useNodeInternalIp)
        (nodesRead answers pods (podsRead answers pod s).2) (FirstSeen · addresses)
      refine ⟨fun e => ?_, fun addresses => ?_⟩
      · simp [hlist]
      · constructor
        · intro h
          cases h
          obtain ⟨contributions, hall, hfirst⟩ := (hfound _).mpr (firstSeen_iff.mpr rfl)
          exact ⟨pods, contributions, hlist, hall, hfirst⟩
        · rintro ⟨pods', contributions, hpods, hall, hfirst⟩
          cases hlist.symm.trans hpods
          rw [firstSeen_iff.mp ((hfound _).mp ⟨contributions, hall, hfirst⟩)]

/-- A controller finds the addresses of its Service. -/
theorem findsService_runningAddresses {config : Config} (hservice : config.publishService ≠ "")
    (pod : PodDetails) (s : σ) :
    FindsService answers config.publishService s
      (((runningAddresses config pod).run answers).run s).value.1 := by
  rw [value_run_runningAddresses_of_service answers hservice]
  -- The text is no reference, or the Service cannot be read, or it can: each settles both sides.
  refine ⟨fun e => ?_, fun addresses => ?_⟩
  · rw [← readReference_eq_error_iff]
    simp only [← readReference_eq_ok_iff]
    cases readReference config.publishService with
    | error e' => simp
    | ok r => cases hread : serviceRead answers r s <;> simp [hread, eq_comm]
  · have hgiven := fun (service : Service) => exists_forall₂_reduceOption_iff gives_iff
      service.entries fun given => addresses = given ++ service.external
    simp only [← readReference_eq_ok_iff, exists_and_left, hgiven]
    cases readReference config.publishService with
    | error e' => simp
    | ok r =>
        cases hread : serviceRead answers r s with
        | error failure => simp [hread]
        | ok service => simp [hread, serviceAddresses, Service.entries, Service.external, eq_comm]

end Readings

/-! ### A cluster in memory -/

/-- The node of a pod is read as a cluster in memory holds it, unless the call is to fail or there
is no such node. -/
def ReadsNode (m : Cluster.Memory) (pod : Pod) (outcome : Except Cluster.Failure Node) : Prop :=
  ∀ node, outcome = .ok node
    ↔ m.fails (.getNode pod.nodeText) = false ∧ m.nodes.get? pod.nodeText = some node

/-- What is read of a cluster in memory, if the calls for it are not to fail:

- `pods`: the pods that it holds with the labels of the controller, in its namespace;
- `nodes`: for each pod the node that it holds under the name, if there is one;
- `service`: the Service that it holds under the key, if there is one. -/
structure ReadsMemory (pod : PodDetails) (h : Host Scene) : Prop where
  pods : ∀ pods, (podsRead (Host.answers Scene.surroundings) pod h).1 = .ok pods
    ↔ h.around.cluster.fails (.listPods pod.namespaceName pod.selector) = false
      ∧ pods = ownPods h.around.cluster pod
  nodes : ∀ pods, List.Forall₂ (ReadsNode h.around.cluster) pods
    (nodesRead (Host.answers Scene.surroundings) pods
      (podsRead (Host.answers Scene.surroundings) pod h).2)
  service : ∀ r service, serviceRead (Host.answers Scene.surroundings) r h = .ok service
    ↔ h.around.cluster.fails (.getService r.namespaceName r.name) = false
      ∧ h.around.cluster.services.get? r.print = some service

section Memory

variable {h : Host Scene}

/-- The nodes of pods are read as the cluster holds them, however many have been read before. -/
theorem forall₂_nodesRead {h' : Host Scene} (hs : Host.Steady h h') (pods : List Pod) :
    List.Forall₂ (ReadsNode h.around.cluster) pods
      (nodesRead (Host.answers Scene.surroundings) pods h') := by
  induction pods generalizing h' with
  | nil => exact .nil
  | cons pod pods ih =>
      -- The call is recorded, and nothing that the next node is read from changes.
      refine .cons (fun node => ?_) (ih (hs.answer _))
      rw [hs.reply (q := .call (.getNode pod.nodeText)) rfl, Host.value_call]
      exact Cluster.Memory.answer_getNode_eq_ok_iff

/-- All calls for the running addresses are answered with what the cluster holds. -/
theorem readsMemory (pod : PodDetails) (h : Host Scene) : ReadsMemory pod h where
  pods pods := by
    rw [podsRead, Host.value_call]
    refine Cluster.Memory.answer_eq_ok_iff.trans (and_congr_right fun _ => ?_)
    show Except.ok (ownPods h.around.cluster pod) = .ok pods ↔ _
    rw [Except.ok.injEq, eq_comm]
  nodes := forall₂_nodesRead ((Host.Steady.refl h).answer _)
  service r service := by
    rw [serviceRead, Host.value_call]
    exact Cluster.Memory.answer_getService_eq_ok_iff

end Memory

/-- Whatever the cluster answers, the running addresses are found as the answers say: those of the
nodes, or those of a Service. A cluster in memory answers with what it holds, apart from the calls
that are to fail. -/
theorem findsAddresses_from_readings :
    (∀ {σ : Type} (answers : Program.Answers Ask.Answer σ) (config : Config) (pod : PodDetails)
        (s : σ), FindsAddresses answers config pod s
          (((runningAddresses config pod).run answers).run s).value.1)
      ∧ ∀ (pod : PodDetails) (h : Host Scene), ReadsMemory pod h :=
  ⟨fun answers _ pod s =>
    ⟨fun hnodes => findsNodes_runningAddresses answers hnodes pod s,
      fun hservice => findsService_runningAddresses answers hservice pod s⟩,
    readsMemory⟩

end Status

end IngressController
