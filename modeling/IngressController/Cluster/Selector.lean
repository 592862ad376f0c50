import IngressController.Object.Metadata
import IngressController.Text.Split

/-!
# Label selectors

A selector is a list of equalities with commas between them. An object matches it if it carries
every label that the selector gives, with the same value; parts without an equals sign are not
looked at, so the empty selector matches everything.
-/

set_option autoImplicit false

namespace IngressController.Cluster

/-- The labels that a selector gives. -/
def selectorLabels (selector : String) : List (String × String) :=
  (Text.splitOn ',' selector).filterMap (Text.splitOnce '=')

/-- Whether an object matches a selector. -/
def matchesSelector (selector : String) (metadata : Object.Metadata) : Bool :=
  (selectorLabels selector).all fun (name, value) =>
    (metadata.labels.bind (·.get? name)) == some value

end IngressController.Cluster
