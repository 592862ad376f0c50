import IngressController.Controller.Basic
import IngressController.Metrics.Exposition

/-!
# The page of the metrics

From the time when its stores are filled until it is told to end, the controller serves its metrics
on a port of their own, under one path.
-/

set_option autoImplicit false

namespace IngressController.Controller

/-- The path of the metrics. -/
def metricsPath : String := "/metrics"

/-- What a request to the port of the metrics is answered with. -/
structure Page where
  status : Nat
  lines : List String := []
  deriving DecidableEq

/-- Whether requests to the port of the metrics are answered. -/
def servesMetrics (c : Controller) : Bool :=
  c.setup.portFree && c.setup.reachable && c.ticker.isSome

/-- The path that a request asks for, which is what stands before its query. -/
def pathOf (target : String) : String :=
  String.ofList (target.toList.takeWhile (· != '?'))

/-- The page that a request is answered with, if requests are answered. -/
def page? (c : Controller) (registry : Metrics.Registry) (target : String) : Option Page :=
  if c.servesMetrics then
    if pathOf target = metricsPath then some { status := 200, lines := registry.lines }
    else some { status := 404 }
  else none

end IngressController.Controller
