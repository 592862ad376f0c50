import IngressController.CommandLine.Reader

/-!
# Options as JSON

The options of a command line with the settings of keeping the status that follow from them, and
the names of the kinds of refusals.
-/

set_option autoImplicit false

namespace IngressController.CommandLine

/-- The settings of keeping the status, their interval in seconds. -/
def statusConfigJson (c : Status.Config) : Json :=
  .obj [("publishService", .str c.publishService), ("ingressClass", .str c.ingressClass),
    ("defaultIngressClass", .str c.defaultIngressClass),
    ("updateStatusOnShutdown", .bool c.updateOnShutdown),
    ("useNodeInternalIp", .bool c.useNodeInternalIp), ("interval", .int (c.interval / 1000))]

/-- The options of a command line. -/
def Options.toJson (o : Options) : Json :=
  .obj [("tcpServicesConfigmap", .orNull .str o.tcpServices),
    ("defaultBackendConfigmap", .orNull .str o.defaultBackend),
    ("publishService", .str o.publishService), ("electionId", .str o.electionId),
    ("ingressClass", .str o.ingressClass), ("defaultIngressClass", .str o.defaultIngressClass),
    ("updateStatus", .bool o.updateStatus),
    ("updateStatusOnShutdown", .bool o.updateStatusOnShutdown),
    ("useNodeInternalIp", .bool o.useNodeInternalIp),
    ("statusUpdateInterval", .int o.statusUpdateInterval),
    ("tcpSyncInterval", .int o.tcpSyncInterval), ("sslDir", .str o.sslDir),
    ("metricsPort", .int o.metricsPort), ("leaseDuration", .int o.leaseDuration),
    ("leaseGrace", .int o.leaseGrace), ("statusConfig", statusConfigJson o.statusConfig)]

/-- The name of the kind of a refusal. -/
def Refusal.name : Refusal → String
  | unknownArgument => "UnknownArgument"
  | invalidValue => "InvalidValue"
  | valueValidation => "ValueValidation"
  | argumentConflict => "ArgumentConflict"
  | tooManyValues => "TooManyValues"
  | displayHelp => "DisplayHelp"
  | displayVersion => "DisplayVersion"

/-- A refusal. -/
def Refusal.toJson (r : Refusal) : Json :=
  .obj [("error", .str "Args"), ("kind", .str r.name)]

end IngressController.CommandLine
