import IngressController.Cluster.Call
import IngressController.Program
import IngressController.Status.Config
import IngressController.Status.Error

/-!
# What keeping the status has to ask for

Besides its calls to the cluster, keeping the status asks for the Ingresses that are watched, for
the leadership, and for whether it is to stop. Here are also the programs that find out where the
controller runs: the details of its own pod and the addresses under which it can be reached.
-/

set_option autoImplicit false

namespace IngressController.Status

open Object

/-- What can cancel the updates of a batch that have not begun. -/
inductive Token where
  /-- The end of all passes, when the controller shuts down. -/
  | endOfPasses
  /-- Whoever asked for the batch. -/
  | caller
  deriving DecidableEq

/-- A request. -/
inductive Ask where
  | call (c : Cluster.Call)
  /-- The Ingresses that are watched. -/
  | ingresses
  /-- Whether this controller leads. -/
  | leading
  /-- Whether the queue of passes has been shut down. -/
  | shuttingDown
  /-- Whether a batch has been cancelled. -/
  | cancelled (token : Token)

/-- The type of the answer to a request. -/
abbrev Ask.Answer : Ask → Type
  | call c => c.Outcome
  | ingresses => List Ingress
  | leading => Bool
  | shuttingDown => Bool
  | cancelled _ => Bool

/-- A program of keeping the status. -/
abbrev Task (α : Type) : Type := Program Ask.Answer α

/-- Makes a call to the cluster. -/
def call (c : Cluster.Call) : Task c.Outcome :=
  Program.request (Ask.call c)

/-! ### Pods and nodes -/

/-- The address of a node, if the node can be read and has one of the wanted kind. -/
def nodeAddress (name : String) (internal : Bool) : Task (Option String) := do
  match ← call (.getNode name) with
  | .ok node => return node.address? internal
  | .error _ =>
    Program.log .warn "unable to read node"
    return none

/-- The details of the pod with a name in a namespace, which must not be empty. -/
def podDetails (namespaceName name : String) : Task (Except Error PodDetails) := do
  if name = "" ∨ namespaceName = "" then return .error .missingPodIdentity
  match ← call (.getPod namespaceName name) with
  | .error (.refused code) =>
    if code = 404 then return .error (.podNotFound namespaceName name)
    else return .error (.cluster (.refused code))
  | .error failure => return .error (.cluster failure)
  | .ok pod =>
    let nodeIp ← nodeAddress pod.nodeText true
    let labels := pod.metadata.labels.getD ∅
    return .ok { name, namespaceName, nodeIp := nodeIp.getD "", labels }

/-- The pods of the controller. -/
def listOwnPods (pod : PodDetails) : Task (Except Cluster.Failure (List Pod)) :=
  call (.listPods pod.namespaceName pod.selector)

/-- Whether more than one pod of the controller runs; false if that cannot be found out. -/
def hasOtherPods (pod : PodDetails) : Task Bool := do
  match ← listOwnPods pod with
  | .ok pods => return decide (1 < pods.length)
  | .error failure =>
    Program.log .warn ("unable to list controller pods: " ++ failure.message)
    return false

/-! ### Running addresses -/

/-- The text of an option, if it is not empty. -/
def nonempty (text : Option String) : Option String :=
  text.filter (· ≠ "")

/-- The address of a load balancer entry: its IP or else its host name. -/
def addressOf (e : Entry) : Option String :=
  nonempty ((nonempty e.ip) <|> e.hostname)

/-- The addresses of a Service: those of its load balancer, then its external ones. -/
def serviceAddresses (service : Service) : List String :=
  ((Status.entries? service.status).getD []).filterMap addressOf ++
    ((service.spec.bind (·.externalIps)).getD [])

/-- Adds an address to a list unless it is in it. -/
def addAddress (addresses : List String) (address : String) : List String :=
  if addresses.contains address then addresses else addresses ++ [address]

/-- The addresses of the nodes of some pods, each once, in the order of the pods. -/
def nodeAddresses (internal : Bool) : List String → List Pod → Task (List String)
  | found, [] => return found
  | found, pod :: pods => do
    match ← nodeAddress pod.nodeText internal with
    | some address => nodeAddresses internal (addAddress found address) pods
    | none => nodeAddresses internal found pods

/-- The addresses under which the controller can be reached. -/
def runningAddresses (config : Config) (pod : PodDetails) : Task (Except Error (List String)) := do
  if config.publishService = "" then
    match ← listOwnPods pod with
    | .error failure => return .error (.cluster failure)
    | .ok pods => return .ok (← nodeAddresses config.useNodeInternalIp [] pods)
  else
    match readReference config.publishService with
    | .error e => return .error e
    | .ok r =>
      match ← call (.getService r.namespaceName r.name) with
      | .error failure => return .error (.cluster failure)
      | .ok service => return .ok (serviceAddresses service)

end IngressController.Status
