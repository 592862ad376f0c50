import IngressController.Cluster.Memory
import IngressController.Status.Host

/-!
# Hosts on a cluster in memory

A scene is a cluster in memory with the watched Ingresses beside it, which change only when they
are refreshed. The call that reads a given Ingress can cancel the batch that it belongs to.
-/

set_option autoImplicit false

namespace IngressController.Status

open Object

/-- A cluster in memory and what is watched of it. -/
structure Scene where
  cluster : Cluster.Memory := {}
  watched : List Ingress := []
  /-- Whether the batch that was asked for is cancelled. -/
  cancelled : Bool := false
  /-- The key of the Ingress that cancels the batch when it is read. -/
  cancelOn : Option String := none

namespace Scene

/-- Whether a call cancels the batch. -/
def cancels (s : Scene) : Cluster.Call → Bool
  | .getIngress namespaceName name => s.cancelOn == some (namespaceName ++ "/" ++ name)
  | _ => false

/-- The outcome of a call. -/
def call (c : Cluster.Call) : StateT Scene Reported c.Outcome := fun s =>
  let (outcome, cluster) := s.cluster.answer c
  pure (outcome, { s with cluster, cancelled := s.cancelled || s.cancels c })

/-- The surroundings of a host. -/
def surroundings : Surroundings Scene where
  call := call
  watched := (·.watched)
  callerCancelled := (·.cancelled)

/-- The scene with the Ingresses watched as they are. -/
def refresh (s : Scene) : Scene :=
  { s with watched := s.cluster.ingresses.values }

end Scene

/-- Brings the managed Ingresses up to date with some entries, in a batch that may be cancelled
beforehand or when a given Ingress is read. -/
def Host.publish (setting : Setting) (entries : List Entry) (cancelled : Bool)
    (cancelOn : Option String) : StateT (Host Scene) Reported (List UpdateOutcome) := do
  let answers := Host.answers Scene.surroundings
  modify fun h => { h with around := { h.around with cancelled, cancelOn } }
  let us ← (updates setting.config setting.custom .caller entries).run answers
  let outcomes ← runUpdates answers us
  modify fun h => { h with around := { h.around with cancelled := false, cancelOn := none } }
  return outcomes

end IngressController.Status
