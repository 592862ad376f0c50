import IngressController.Object.Decoder

/-!
# The metadata that every object carries

An object is known by its namespace and its name. Either may be missing, which is not the same as
empty for a look-up in a store, but is written the same in the key of the object.

The prefix from which a server makes the name of a new object, `generateName`, is left out. It is
only looked at in place of a missing name, and every object that a server hands out has a name.
-/

set_option autoImplicit false

namespace IngressController.Object

/-- The metadata of an object. -/
structure Metadata where
  name : Option String := none
  namespaceName : Option String := none
  labels : Option (TextMap String) := none
  annotations : Option (TextMap String) := none
  resourceVersion : Option String := none
  deriving DecidableEq

namespace Metadata

/-- The name, empty if missing. -/
def nameText (m : Metadata) : String :=
  m.name.getD ""

/-- The namespace, empty if missing. -/
def namespaceText (m : Metadata) : String :=
  m.namespaceName.getD ""

/-- The namespace and the name with a slash between them. -/
def key (m : Metadata) : String :=
  m.namespaceText ++ "/" ++ m.nameText

/-- The value of an annotation. -/
def annotationText? (m : Metadata) (name : String) : Option String :=
  m.annotations.bind (·.get? name)

/-- Whether two objects of one kind are the same one: their namespaces and names agree. -/
def sameObject (m m' : Metadata) : Bool :=
  m.namespaceName == m'.namespaceName && m.nameText == m'.nameText

/-- Whether an object is in a namespace. One without a namespace is in none. -/
def isIn (m : Metadata) (namespaceName : String) : Bool :=
  m.namespaceName == some namespaceName

/-- Whether an object is the one with a namespace and a name. -/
def isAt (m : Metadata) (namespaceName name : String) : Bool :=
  m.isIn namespaceName && m.nameText == name

/-- Reads metadata. -/
def ofJson? (json : Json) : Option Metadata := do
  let _ ← json.obj?
  return {
    name := ← optional json "name" Json.str?
    namespaceName := ← optional json "namespace" Json.str?
    labels := ← optional json "labels" textMap
    annotations := ← optional json "annotations" textMap
    resourceVersion := ← optional json "resourceVersion" Json.str? }

/-- Reads the metadata member of an object of a kind. -/
def ofObject? (apiVersion kind : String) (json : Json) : Option Metadata := do
  ofKind apiVersion kind json
  withDefault json "metadata" {} ofJson?

end Metadata

end IngressController.Object
