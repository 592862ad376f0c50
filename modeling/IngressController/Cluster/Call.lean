import IngressController.Object.Ingress
import IngressController.Object.Pod
import IngressController.Object.Service

/-!
# Calls to the cluster

The controller reads pods, nodes, Services and Ingresses and writes the status of an Ingress. Each
call has a type of answer, and each can fail instead.
-/

set_option autoImplicit false

namespace IngressController.Cluster

open Object

/-- A call to the cluster. -/
inductive Call where
  | getPod (namespaceName name : String)
  /-- The pods of a namespace with all of the labels of a selector. -/
  | listPods (namespaceName selector : String)
  | getNode (name : String)
  | getService (namespaceName name : String)
  | getIngress (namespaceName name : String)
  /-- Writes the status of an Ingress. -/
  | publish (ing : Ingress)

/-- What a call is answered with. -/
abbrev Call.Answer : Call → Type
  | getPod .. => Pod
  | listPods .. => List Pod
  | getNode _ => Node
  | getService .. => Service
  | getIngress .. => Ingress
  | publish _ => Unit

/-- Why there is no request for a call. -/
inductive Flaw where
  /-- The object that the call is about has no name. -/
  | noName
  | badCharacter
  | tooLong
  deriving DecidableEq

/-- The text of a flaw. -/
def Flaw.message : Flaw → String
  | noName => "failed to validate request: A non-empty name is required"
  | badCharacter => "failed to build request: invalid uri character"
  | tooLong => "failed to build request: uri too long"

/-- Why a call fails. -/
inductive Failure where
  /-- The cluster refused, with the code of an error. -/
  | refused (code : Int)
  /-- There was no answer. -/
  | noAnswer (reason : String)
  /-- The answer could not be read. -/
  | unreadable
  /-- There is no request for the call. -/
  | unaddressable (flaw : Flaw)
  deriving DecidableEq

/-- The text of a failure, without the details of the answer. -/
def Failure.message : Failure → String
  | refused _ => "ApiError"
  | noAnswer reason => "ServiceError: " ++ reason
  | unreadable => "Error deserializing response"
  | unaddressable flaw => "Failed to build request: " ++ flaw.message

/-- The outcome of a call. -/
abbrev Call.Outcome (c : Call) : Type := Except Failure c.Answer

end IngressController.Cluster
