import IngressController.Object.Metadata

/-!
# Secrets and config maps

Both hold named data. Of a Secret only the names matter here: its contents are written to files
elsewhere.
-/

set_option autoImplicit false

namespace IngressController.Object

/-- A Secret. -/
structure Secret where
  metadata : Metadata := {}
  data : Option (TextMap String) := none
  deriving DecidableEq

/-- A ConfigMap. -/
structure ConfigMap where
  metadata : Metadata := {}
  data : Option (TextMap String) := none
  deriving DecidableEq

/-- Reads a Secret. -/
def Secret.ofJson? (json : Json) : Option Secret := do
  let metadata ← Metadata.ofObject? "v1" "Secret" json
  let data ← optional json "data" textMap
  return { metadata, data }

/-- Reads a ConfigMap. -/
def ConfigMap.ofJson? (json : Json) : Option ConfigMap := do
  let metadata ← Metadata.ofObject? "v1" "ConfigMap" json
  let data ← optional json "data" textMap
  return { metadata, data }

end IngressController.Object
