/-!
# Why an annotation cannot be honoured

That an annotation is missing is told apart from every other cause: it is no failure, and the
value that the Ingress inherits takes its place.
-/

set_option autoImplicit false

namespace IngressController.Annotations

/-- The clients that may reach an Ingress, as addresses and networks in canonical form. -/
structure SourceRange where
  cidr : List String := []
  deriving DecidableEq

/-- Why an annotation gives no configuration. -/
inductive Error where
  /-- The annotation is not there, or counts as not there. -/
  | missing
  /-- The value of the annotation cannot be read. -/
  | invalid (name value : String)
  /-- No entry of the allow list can be read, so that the location must be denied. The
  configuration that takes its place is given along. -/
  | denied (value : String) (fallback : SourceRange)
  /-- The secret that the annotation refers to does not exist. -/
  | secretNotFound (name : String)
  /-- The servers are to be verified but not to be talked to in TLS. -/
  | verifyWithoutTls (secret : String)
  deriving DecidableEq

namespace Error

/-- The text of an error. -/
def message : Error → String
  | missing => "ingress rule without annotations"
  | invalid name value => "annotation " ++ name ++ " contains invalid value '" ++ value ++ "'"
  | denied value _ =>
    "location denied, reason: the annotation does not contain a valid IP address or network: " ++
      value
  | secretNotFound name => "secret not found: " ++ name
  | verifyWithoutTls secret =>
    "configuration error: trying to use CA from secret " ++ secret ++ " on a non secure backend"

/-- Whether an annotation is merely missing. -/
def isMissing : Error → Bool
  | missing => true
  | _ => false

/-- Whether the location must be denied. -/
def isDenied : Error → Bool
  | denied .. => true
  | _ => false

end Error

end IngressController.Annotations
