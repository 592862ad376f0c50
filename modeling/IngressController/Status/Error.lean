import IngressController.Cluster.Call
import IngressController.NameReference

/-!
# Why the status of the Ingresses cannot be kept

The errors of starting up and of a pass over the Ingresses.
-/

set_option autoImplicit false

namespace IngressController.Status

/-- Why the status cannot be kept. -/
inductive Error where
  /-- The environment does not say which pod this is. -/
  | missingPodIdentity
  /-- The pod that the environment names does not exist. -/
  | podNotFound (namespaceName name : String)
  /-- A text is no reference to an object. -/
  | invalidName (text : String)
  /-- A call to the cluster has failed. -/
  | cluster (failure : Cluster.Failure)
  /-- The leader election has failed. -/
  | leaderElection (reason : String)
  deriving DecidableEq

/-- The text of an error. -/
def Error.message : Error → String
  | missingPodIdentity =>
    "unable to get POD information (missing POD_NAME or POD_NAMESPACE environment variable)"
  | podNotFound namespaceName name =>
    "unable to get POD information: pod " ++ namespaceName ++ "/" ++ name ++ " not found"
  | invalidName text => "invalid format (namespace/name) found in '" ++ text ++ "'"
  | cluster failure => "kubernetes API error: " ++ failure.message
  | leaderElection reason => "leader election failed: " ++ reason

/-- Reads a strict reference to an object. -/
def readReference (text : String) : Except Error NameReference :=
  match NameReference.parse? text with
  | some r => .ok r
  | none => .error (.invalidName text)

end IngressController.Status
