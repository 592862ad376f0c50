import IngressController.Status.Error

/-!
# Errors as JSON

An error of keeping the status with its kind and its text; of a failed call the kind of failure
stands beside it, and for a refusal the code in place of the text.
-/

set_option autoImplicit false

namespace IngressController

/-- The members that describe a failed call, with the text of a missing answer. -/
def Cluster.Failure.members (text : String) : Cluster.Failure → List (String × Json)
  | refused code => [("error", .str "Kube"), ("kind", .str "Api"), ("code", .int code)]
  | noAnswer _ => [("error", .str "Kube"), ("kind", .str "Service"), ("message", .str text)]
  | unreadable => [("error", .str "Kube"), ("kind", .str "Serde")]
  | unaddressable _ => [("error", .str "Kube"), ("kind", .str "BuildRequest")]

namespace Status.Error

/-- The name of the kind of an error. -/
def kind : Status.Error → String
  | missingPodIdentity => "MissingPodIdentity"
  | podNotFound .. => "PodNotFound"
  | invalidName _ => "InvalidName"
  | cluster _ => "Kube"
  | leaderElection _ => "LeaderElection"

/-- The members that describe an error. -/
def members (e : Status.Error) : List (String × Json) :=
  match e with
  | cluster failure => failure.members e.message
  | e => [("error", .str e.kind), ("message", .str e.message)]

end Status.Error

end IngressController
