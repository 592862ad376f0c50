import IngressController.Configuration
import IngressController.Status.Config
import IngressController.Text.Numeral
import IngressController.Text.Split

/-!
# The options of the controller

Every option has a name and a kind of value; some can also be given by a variable of the
environment. An option is set from the text of its value, which can be refused.
-/

set_option autoImplicit false

namespace IngressController.CommandLine

/-- What the controller is told when it is started. -/
structure Options where
  /-- The config map with the TCP services table. -/
  tcpServices : Option String := none
  /-- The config map with the settings of the default backend. -/
  defaultBackend : Option String := none
  publishService : String := ""
  /-- What the name of the lease begins with. -/
  electionId : String := "ingress-controller-leader"
  ingressClass : String := ""
  defaultIngressClass : String := IngressClass.builtInDefault
  updateStatus : Bool := true
  updateStatusOnShutdown : Bool := true
  useNodeInternalIp : Bool := false
  /-- The seconds from one status pass to the next. -/
  statusUpdateInterval : Nat := 60
  /-- The seconds from one configuration pass to the next. -/
  tcpSyncInterval : Nat := 5
  sslDir : String := "/var/haproxy/ssl"
  metricsPort : Nat := 8080
  /-- The seconds that a lease is valid. -/
  leaseDuration : Nat := 30
  /-- The seconds before the end of a lease in which it is renewed. -/
  leaseGrace : Nat := 15
  deriving DecidableEq

/-- The settings of keeping the status; there is at least a second between passes. -/
def Options.statusConfig (o : Options) : Status.Config where
  publishService := o.publishService
  ingressClass := o.ingressClass
  defaultIngressClass := o.defaultIngressClass
  updateOnShutdown := o.updateStatusOnShutdown
  useNodeInternalIp := o.useNodeInternalIp
  interval := max o.statusUpdateInterval 1 * 1000

/-- Where the configuration comes from. -/
def Options.sources (o : Options) : Sources where
  tcpServices := o.tcpServices
  defaultBackend := o.defaultBackend
  ingressClass := o.ingressClass
  defaultIngressClass := o.defaultIngressClass

/-- Why a command line gives no options. -/
inductive Refusal where
  | unknownArgument
  /-- A value is missing or none of those that are allowed. -/
  | invalidValue
  /-- A value is no number or out of range. -/
  | valueValidation
  /-- An option is given twice. -/
  | argumentConflict
  /-- A switch is given a value. -/
  | tooManyValues
  /-- Help is asked for. -/
  | displayHelp
  /-- The version is asked for. -/
  | displayVersion
  deriving DecidableEq, Repr

/-- An option that can be given. -/
inductive Flag where
  | tcpServices
  | defaultBackend
  | publishService
  | electionId
  | ingressClass
  | defaultIngressClass
  | updateStatus
  | updateStatusOnShutdown
  | useNodeInternalIp
  | statusUpdateInterval
  | tcpSyncInterval
  | sslDir
  | metricsPort
  | leaseDuration
  | leaseGrace
  | help
  | version
  deriving DecidableEq, Repr

namespace Flag

/-- Every option. -/
def all : List Flag :=
  [tcpServices, defaultBackend, publishService, electionId, ingressClass, defaultIngressClass,
    updateStatus, updateStatusOnShutdown, useNodeInternalIp, statusUpdateInterval, tcpSyncInterval,
    sslDir, metricsPort, leaseDuration, leaseGrace, help, version]

/-- The name of an option, without the hyphens in front. -/
def name : Flag → String
  | tcpServices => "tcp-services-configmap"
  | defaultBackend => "default-backend-configmap"
  | publishService => "publish-service"
  | electionId => "election-id"
  | ingressClass => "ingress-class"
  | defaultIngressClass => "default-ingress-class"
  | updateStatus => "update-status"
  | updateStatusOnShutdown => "update-status-on-shutdown"
  | useNodeInternalIp => "use-node-internal-ip"
  | statusUpdateInterval => "status-update-interval"
  | tcpSyncInterval => "tcp-sync-interval"
  | sslDir => "ssl-dir"
  | metricsPort => "metrics-port"
  | leaseDuration => "lease-duration"
  | leaseGrace => "lease-grace"
  | help => "help"
  | version => "version"

/-- The option with a name. -/
def ofName? (text : String) : Option Flag :=
  all.find? fun f => f.name == text

/-- The option with a letter. -/
def ofLetter? : Char → Option Flag
  | 'h' => some help
  | 'V' => some version
  | _ => none

/-- The variable of the environment that gives an option. -/
def variableName : Flag → Option String
  | tcpServices => some "TCP_SERVICES_CONFIGMAP"
  | defaultBackend => some "DEFAULT_BACKEND_CONFIGMAP"
  | publishService => some "PUBLISH_SERVICE"
  | ingressClass => some "INGRESS_CLASS"
  | metricsPort => some "METRICS_PORT"
  | _ => none

/-- Whether an option has no value. -/
def isSwitch : Flag → Bool
  | useNodeInternalIp | help | version => true
  | _ => false

/-- Reads a truth value. -/
def truth (value : String) : Except Refusal Bool :=
  if value = "true" then .ok true
  else if value = "false" then .ok false
  else .error .invalidValue

/-- Reads a number of 64 bits. -/
def number (value : String) : Except Refusal Nat :=
  match Text.readUnsigned? 64 value with
  | some n => .ok n
  | none => .error .valueValidation

/-- Reads the number of a port, as a signed number in the range of a port. -/
def port (value : String) : Except Refusal Nat :=
  match Text.readSigned? 64 value with
  | some i => if 0 ≤ i ∧ i < 65536 then .ok i.toNat else .error .valueValidation
  | none => .error .valueValidation

/-- Sets an option from the text of its value. A switch sets itself. -/
def set (o : Options) (value : String) : Flag → Except Refusal Options
  | tcpServices => .ok { o with tcpServices := some value }
  | defaultBackend => .ok { o with defaultBackend := some value }
  | publishService => .ok { o with publishService := value }
  | electionId => .ok { o with electionId := value }
  | ingressClass => .ok { o with ingressClass := value }
  | defaultIngressClass => .ok { o with defaultIngressClass := value }
  | updateStatus => (truth value).map fun b => { o with updateStatus := b }
  | updateStatusOnShutdown => (truth value).map fun b => { o with updateStatusOnShutdown := b }
  | useNodeInternalIp => .ok { o with useNodeInternalIp := true }
  | statusUpdateInterval => (number value).map fun n => { o with statusUpdateInterval := n }
  | tcpSyncInterval => (number value).map fun n => { o with tcpSyncInterval := n }
  | sslDir => .ok { o with sslDir := value }
  | metricsPort => (port value).map fun n => { o with metricsPort := n }
  | leaseDuration => (number value).map fun n => { o with leaseDuration := n }
  | leaseGrace => (number value).map fun n => { o with leaseGrace := n }
  | help => .error .displayHelp
  | version => .error .displayVersion

end Flag

end IngressController.CommandLine
