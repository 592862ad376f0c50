import IngressController.Annotations.Extract

/-!
# When a configuration has not changed

Two configurations count as the same if each feature has the same one in both. Configurations of a
feature are compared as they are, but for the clients that may reach an Ingress: of these lists the
order does not matter. The recorded errors are not compared.
-/

set_option autoImplicit false

namespace IngressController.Annotations

/-- Whether two configurations of a feature are the same. -/
def Feature.same : (f : Feature) → f.Config → f.Config → Bool
  | .cors, a, b => a == b
  | .proxy, a, b => a == b
  | .whitelist, a, b => SourceRange.sameAs a b
  | .redirect, a, b => a == b
  | .portInRedirect, a, b => a == b
  | .serverTls, a, b => a == b
  | .serviceAddress, a, b => a == b
  | .sessionAffinity, a, b => a == b
  | .sslPassthrough, a, b => a == b
  | .healthCheck, a, b => a == b

/-- Whether two resolved configurations are the same in every feature. -/
def Resolved.sameAs (a b : Resolved) : Bool :=
  Feature.all.all fun f => f.same (a.get f) (b.get f)

/-- Whether two values that may be missing are both missing or both there and the same. -/
def sameOption {α : Type} (same : α → α → Bool) : Option α → Option α → Bool
  | none, none => true
  | some a, some b => same a b
  | _, _ => false

end IngressController.Annotations
