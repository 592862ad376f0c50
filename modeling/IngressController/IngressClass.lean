import IngressController.Object.Ingress

/-!
# Ingress classes

An Ingress asks for a class by an annotation or in its specification; the annotation wins. A
controller manages the Ingresses that ask for its own class, and those that ask for none if it
runs the default class or no class. Controllers of different classes elect their leaders
independently, each under a lock named after its class.
-/

set_option autoImplicit false

namespace IngressController.IngressClass

open Object

/-- The annotation that names the class of an Ingress. -/
def annotationName : String := "kubernetes.io/ingress.class"

/-- The class that is the default one unless another is configured. -/
def builtInDefault : String := "haproxy"

/-- The class an Ingress asks for, empty if it asks for none. -/
def requested (ing : Ingress) : String :=
  match ing.metadata.annotationText? annotationName with
  | some className => className
  | none => (ing.spec.bind (·.className)).getD ""

/-- Whether a controller of a class manages an Ingress. -/
def manages (controllerClass defaultClass : String) (ing : Ingress) : Bool :=
  if requested ing = "" then controllerClass == "" || controllerClass == defaultClass
  else requested ing == controllerClass

/-- The name of the lock under which the controllers of a class elect their leader. -/
def lockName (stem controllerClass defaultClass : String) : String :=
  stem ++ "-" ++ (if controllerClass = "" then defaultClass else controllerClass)

end IngressController.IngressClass
