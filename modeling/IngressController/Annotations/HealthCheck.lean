import IngressController.Annotations.Key
import IngressController.Annotations.Reader
import IngressController.DefaultBackend

/-!
# Health checks of the servers

Each setting is the annotation of the Ingress if that is not empty, and the one of the default
backend otherwise.
-/

set_option autoImplicit false

namespace IngressController.Annotations

open Object

/-- How the servers are checked. -/
structure HealthCheck where
  uri : String := ""
  addr : String := ""
  port : String := ""
  interval : String := ""
  riseCount : String := ""
  fallCount : String := ""
  deriving DecidableEq

/-- How the servers of an Ingress are checked. -/
def HealthCheck.resolve (backend : DefaultBackend) (ing : Ingress) : HealthCheck where
  uri := nonemptyText ing Key.healthCheckUri.name backend.healthCheckUri
  addr := nonemptyText ing Key.healthCheckAddr.name backend.healthCheckAddr
  port := nonemptyText ing Key.healthCheckPort.name backend.healthCheckPort
  interval := nonemptyText ing Key.healthCheckInterval.name backend.healthCheckInterval
  riseCount := nonemptyText ing Key.healthCheckRiseCount.name backend.healthCheckRiseCount
  fallCount := nonemptyText ing Key.healthCheckFallCount.name backend.healthCheckFallCount

end IngressController.Annotations
