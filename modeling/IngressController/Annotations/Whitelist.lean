import IngressController.AllowList
import IngressController.Annotations.Key
import IngressController.Annotations.Reader
import IngressController.DefaultBackend

/-!
# The clients that may reach an Ingress

The annotation lists addresses and networks with commas between them. Entries that cannot be read
are dropped and reported. If none can be read, the location has to be denied, and the list of the
default backend stands in for the rest of the configuration; that list also holds for an Ingress
without the annotation.
-/

set_option autoImplicit false

namespace IngressController.Annotations

open Object

/-- Two lists of clients count as equal if they are of the same length and every entry of the
first is in the second. -/
def SourceRange.sameAs (a b : SourceRange) : Bool :=
  a.cidr.length == b.cidr.length && a.cidr.all b.cidr.contains

namespace Whitelist

/-- The list of the default backend in increasing order. -/
def inherited (backend : DefaultBackend) : SourceRange where
  cidr := backend.whitelistSourceRange.mergeSort (fun a b => decide (a ≤ b))

/-- The clients that may reach an Ingress. -/
def resolve (backend : DefaultBackend) (ing : Ingress) : Reported (Except Error SourceRange) :=
  match textOf ing Key.whitelistSourceRange.name with
  | .error _ => pure (.ok (inherited backend))
  | .ok value =>
    let parsed := AllowList.Parsed.ofTexts (Text.splitOn ',' value)
    if !parsed.hasValid then pure (.error (.denied value (inherited backend)))
    else do
      if parsed.invalid ≠ [] then
        Reported.log .warn "error parsing whitelist-source-range, ignoring invalid entries"
      pure (.ok { cidr := parsed.sorted })

end Whitelist

end IngressController.Annotations
