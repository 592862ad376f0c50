import IngressController.Text.Split

/-!
# References to objects

An object is referred to by its namespace and its name with a slash between them. A strict
reference has exactly one slash and a text on both sides of it; a loose one is cut at its first
slash, whatever stands around it.
-/

set_option autoImplicit false

namespace IngressController

/-- A namespace and a name in it. -/
structure NameReference where
  namespaceName : String
  name : String
  deriving DecidableEq

namespace NameReference

/-- Reads a strict reference. -/
def parse? (text : String) : Option NameReference :=
  match Text.splitOn '/' text with
  | [namespaceName, name] =>
    if namespaceName = "" ∨ name = "" then none else some ⟨namespaceName, name⟩
  | _ => none

/-- Reads a loose reference. -/
def cut? (text : String) : Option NameReference :=
  (Text.splitOnce '/' text).map fun (namespaceName, name) => ⟨namespaceName, name⟩

/-- The reference as a text. -/
def print (r : NameReference) : String :=
  r.namespaceName ++ "/" ++ r.name

end NameReference

end IngressController
