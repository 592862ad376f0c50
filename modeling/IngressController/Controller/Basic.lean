import IngressController.CommandLine.Options
import IngressController.Controller.Exit
import IngressController.Controller.Site
import IngressController.Election.Candidate

/-!
# The controller

The controller consists of tasks that share an API server and the stores kept from it: the
reflectors fill the stores, the configuration passes rebuild the configuration, the candidate takes
part in the election, the status passes publish addresses, and the main task starts the others and
ends them.

Every task is a function that does the next thing the task has to do at a time, if there is any, and
makes at most one request to the server. So every order in which the tasks can take turns is a list
of such steps.
-/

set_option autoImplicit false

namespace IngressController

open Object

namespace Controller

/-- What a controller is given when it is started. -/
structure Setup where
  options : CommandLine.Options := {}
  environment : TextMap String := ∅
  /-- Whether there is access to a cluster. -/
  hasClient : Bool := true
  /-- Whether the port of the metrics can be listened on. -/
  portFree : Bool := true
  /-- Whether connections to that port reach the controller. -/
  reachable : Bool := true

/-- A signal that ends the controller. -/
inductive Signal where
  | terminate
  | interrupt
  deriving DecidableEq

/-- The name of a signal. -/
def Signal.name : Signal → String
  | terminate => "SIGTERM"
  | interrupt => "SIGINT"

/-- How the controller has ended. -/
abbrev Outcome : Type := Except Exit Unit

/-- How far the main task is. -/
inductive Stage where
  | starting
  | waitingForStores
  /-- The stores are filled; the pod of the controller has to be found. -/
  | identifying
  | serving
  /-- The status passes have been told to end and the addresses are withdrawn. -/
  | withdrawing (outcome : Outcome)
  /-- The run of the status passes is to end. -/
  | endingPasses (outcome : Outcome)
  /-- Everything else has been told to end. -/
  | endingElection (outcome : Outcome)
  | ended (outcome : Outcome)

/-- What the controller keeps the status with, if it does. -/
structure StatusTasks where
  setting : Status.Setting
  candidate : Election.Candidate
  passes : Status.Host Unit

end Controller

/-- A controller. -/
structure Controller where
  setup : Controller.Setup
  site : Controller.Site := {}
  stage : Controller.Stage := .starting
  reflectors : List Controller.Reflector := []
  configuration : Configuration := {}
  /-- When the configuration passes are due, while they are made. -/
  ticker : Option Ticker := none
  status : Option Controller.StatusTasks := none
  /-- The signal that has come. -/
  signal : Option Controller.Signal := none

namespace Controller

/-! ### Reflectors -/

/-- Lets the first reflector of a kind list its objects if that is due. -/
def reflectKind (kind : Kind) (now : Nat) (site : Site) :
    List Reflector → Reported (Option (List Reflector × Site))
  | [] => return none
  | r :: rest => do
    if r.kind = kind then
      if r.isDue now then
        let (r, site) ← r.list now site
        return some (r :: rest, site)
      else return none
    else
      let found ← reflectKind kind now site rest
      return found.map fun (rest, site) => (r :: rest, site)

/-- A step of the reflector of a kind. -/
def reflect (kind : Kind) (now : Nat) (c : Controller) : Reported (Option Controller) := do
  let found ← reflectKind kind now c.site c.reflectors
  return found.map fun (reflectors, site) => { c with reflectors, site }

/-! ### Configuration passes -/

/-- A step of the configuration passes. -/
def configure (now : Nat) (c : Controller) : Reported (Option Controller) :=
  match c.ticker with
  | some ticker =>
    if ticker.isDue now then do
      let configuration ← c.configuration.refresh c.setup.options.sources c.site.stores
      return some { c with configuration, ticker := some (ticker.tickSkipping now) }
    else return none
  | none => return none

/-! ### Keeping the status -/

/-- Runs something of the status passes at the site. -/
def onPasses (c : Controller) (tasks : StatusTasks)
    (f : StateT (Status.Host Site) Reported Unit) : Reported Controller := do
  let (_, h) ← f.run (tasks.passes.moveTo c.site)
  return { c with site := h.around, status := some { tasks with passes := h.moveTo () } }

/-- A step of the run of the status passes. If a pass makes its updates, the one at a position goes
on. -/
def keepStatus (position now : Nat) (c : Controller) : Reported (Option Controller) :=
  match c.status with
  | some tasks =>
    if tasks.passes.isDue now then do
      return some
        (← c.onPasses tasks (Status.Host.step Site.surroundings tasks.setting now position))
    else return none
  | none => return none

/-- A step of the candidate. The status passes see its leadership. -/
def elect (now : Nat) (c : Controller) : Reported (Option Controller) :=
  match c.status with
  | some tasks => do
    match ← tasks.candidate.step now c.site.server with
    | some (candidate, server) =>
      let passes := { tasks.passes with leadership := candidate.elector.leadership }
      return some { c with
        site := { c.site with server }
        status := some { tasks with candidate, passes } }
    | none => return none
  | none => return none

/-! ### The main task -/

/-- The controller in the next stage. -/
def goOn (c : Controller) (stage : Stage) : Controller :=
  { c with stage }

/-- Starts the reflectors. -/
def start (now : Nat) (c : Controller) : Reported Controller := do
  Reported.log .info "Starting HAProxy Ingress controller"
  if !c.setup.hasClient then return c.goOn (.ended (.error .noClient))
  Reported.log .info "waiting for caches to sync"
  let stores := { c.site.stores with sslDir := c.setup.options.sslDir }
  let reflectors := Kind.watched.map fun kind => { kind, listAt := some now }
  return { c with reflectors, stage := .waitingForStores, site := { c.site with stores } }

/-- Starts the configuration passes and serves the metrics, when all stores are filled. -/
def serve (now : Nat) (c : Controller) : Reported Controller := do
  Reported.log .info "caches synced"
  if c.setup.portFree then Reported.log .info "serving metrics"
  let stores := { c.site.stores with synced := true }
  let ticker := Ticker.start (max c.setup.options.tcpSyncInterval 1 * 1000) now
  let stage := if c.setup.options.updateStatus then Stage.identifying else .serving
  return { c with stage, site := { c.site with stores }, ticker := some ticker }

/-- How the leader is elected. -/
def electionConfig (options : CommandLine.Options) (pod : Status.PodDetails) :
    Election.Config where
  name := IngressClass.lockName options.electionId options.ingressClass
    options.defaultIngressClass
  namespaceName := pod.namespaceName
  duration := options.leaseDuration
  grace := options.leaseGrace

/-- Finds out which pod the controller is and starts to keep the status. -/
def identify (now : Nat) (c : Controller) : Reported Controller := do
  let environment (name : String) : String := (c.setup.environment.get? name).getD ""
  let name := environment "POD_NAME"
  let leadership : Leadership := { identity := name }
  let details := (Status.podDetails (environment "POD_NAMESPACE") name).run
    (Status.Host.answers Site.surroundings)
  let (found, h) ← details.run { around := c.site, leadership }
  match found with
  | .error e => return { c with site := h.around, stage := .ended (.error (.noPod e)) }
  | .ok pod =>
    Reported.log .info "controller pod identified"
    let setting : Status.Setting := { config := c.setup.options.statusConfig, pod }
    let candidate := Election.Candidate.entering (electionConfig c.setup.options pod) leadership now
    let c := { c with site := h.around, stage := .serving }
    c.onPasses { setting, candidate, passes := h.moveTo () } (Status.Host.start setting now)

/-- Begins to shut down, for a signal or because the election has ended. -/
def shutDown? (c : Controller) : Reported (Option Controller) :=
  let shutDown (outcome : Outcome) : Reported (Option Controller) := do
    Reported.log .info "shutting down"
    let status := c.status.map fun tasks =>
      { tasks with passes := tasks.passes.beginShutdown tasks.setting }
    return some { c with stage := .withdrawing outcome, status }
  match c.signal, c.status.bind (·.candidate.elector.result?) with
  | some signal, _ => do
    Reported.log .info ("received " ++ signal.name)
    shutDown (.ok ())
  | none, some result => shutDown (.error (.ofElection result))
  | none, none => return none

/-- A step of the withdrawal, or on to the next stage when it has ended. If the withdrawal makes its
updates, the one at a position goes on. -/
def withdraw (outcome : Outcome) (position : Nat) (c : Controller) : Reported Controller :=
  match c.status with
  | some tasks =>
    if tasks.passes.isWithdrawing then
      c.onPasses tasks (Status.Host.stepWithdrawal Site.surroundings position)
    else return c.goOn (.endingPasses outcome)
  | none => return c.goOn (.endingPasses outcome)

/-- Whether the run of the status passes has ended. -/
def passesEnded (c : Controller) : Bool :=
  c.status.all fun tasks => decide (tasks.passes.run = .ended)

/-- Tells all tasks that are left to end. -/
def cancel (outcome : Outcome) (c : Controller) : Controller :=
  { c with
    stage := .endingElection outcome
    status := c.status.map fun tasks => { tasks with candidate := tasks.candidate.cancel }
    reflectors := [], ticker := none }

/-- Whether the election has ended. -/
def electionEnded (c : Controller) : Bool :=
  c.status.all fun tasks => tasks.candidate.elector.result?.isSome

/-- The line that is logged when the port of the metrics is taken. -/
def portTaken (port : Nat) : String :=
  "metrics server failed: unable to bind metrics server to 0.0.0.0:" ++ Text.decimal port ++
    ": Address already in use (os error 98)"

/-- Ends. An error of an election that has been told to end changes nothing. -/
def finish (outcome : Outcome) (c : Controller) : Reported Controller := do
  match outcome, c.status.bind (·.candidate.elector.result?) with
  | .ok (), some (.error e) =>
    Reported.log .warn ("leader election stopped with error: " ++ e.message)
  | _, _ => pure ()
  if !c.setup.portFree then Reported.log .error (portTaken c.setup.options.metricsPort)
  return c.goOn (.ended outcome)

/-- A step of the main task. If the withdrawal makes its updates, the one at a position goes on. -/
def lead (position now : Nat) (c : Controller) : Reported (Option Controller) :=
  match c.stage with
  | .starting => some <$> c.start now
  | .waitingForStores =>
    if c.reflectors.all (·.listAt.isNone) then some <$> c.serve now else return none
  | .identifying => some <$> c.identify now
  | .serving => c.shutDown?
  | .withdrawing outcome => some <$> c.withdraw outcome position
  | .endingPasses outcome => return if c.passesEnded then some (c.cancel outcome) else none
  | .endingElection outcome =>
    if c.electionEnded then some <$> c.finish outcome else return none
  | .ended _ => return none

/-! ### Together -/

/-- A task that goes on. Where updates are made in a pool, the one at a position goes on. -/
inductive Task where
  | reflector (kind : Kind)
  | main (position : Nat)
  | configuration
  | passes (position : Nat)
  | candidate
  deriving DecidableEq, Repr

/-- The next thing that a task does at a time, if there is any. -/
def step (now : Nat) : Task → Controller → Reported (Option Controller)
  | .reflector kind => reflect kind now
  | .main position => lead position now
  | .configuration => configure now
  | .passes position => keepStatus position now
  | .candidate => elect now

/-- The tasks in the order in which they go first if they have something to do at the same time. Of
updates in a pool the first in flight goes on. -/
def turns (c : Controller) : List Task :=
  let position (turn : Status.Host Unit → Nat) : Nat :=
    (c.status.map fun tasks => turn tasks.passes).getD 0
  c.reflectors.map (fun r => .reflector r.kind) ++
    [.main (position Status.Host.withdrawalTurn), .configuration,
      .passes (position Status.Host.turn), .candidate]

/-- A signal comes. It counts only while the controller serves. -/
def receive (signal : Signal) (c : Controller) : Controller :=
  match c.stage with
  | .serving => { c with signal := some signal }
  | _ => c

/-- How the controller has ended, if it has. -/
def outcome? (c : Controller) : Option Outcome :=
  match c.stage with
  | .ended outcome => some outcome
  | _ => none

end Controller

end IngressController
