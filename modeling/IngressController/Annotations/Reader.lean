import IngressController.Annotations.Error
import IngressController.Annotations.Format
import IngressController.Object.Ingress
import IngressController.Text.Numeral

/-!
# Reading the value of one annotation

Each reader tells a missing annotation apart from one with a value it cannot read. Texts are taken
as they are, blanks included.
-/

set_option autoImplicit false

namespace IngressController.Annotations

open Object

/-- The text of an annotation. -/
def textOf (ing : Ingress) (name : String) : Except Error String :=
  match ing.metadata.annotationText? name with
  | some value => .ok value
  | none => .error .missing

/-- The value that a reader makes of the text of an annotation. -/
def readOf {α : Type} (read? : String → Option α) (ing : Ingress) (name : String) :
    Except Error α :=
  match textOf ing name with
  | .ok value =>
    match read? value with
    | some read => .ok read
    | none => .error (.invalid name value)
  | .error e => .error e

/-- An annotation that is a truth value. -/
def boolOf : Ingress → String → Except Error Bool :=
  readOf parseBool?

/-- An annotation that is a number of 32 bits. -/
def intOf : Ingress → String → Except Error Int :=
  readOf (Text.readSigned? 32)

/-- The value that was read, or another one in its place. -/
def orElse {α : Type} (value : Except Error α) (default : α) : α :=
  match value with
  | .ok a => a
  | .error _ => default

/-- The text of an annotation if it is not empty, or another one in its place. -/
def nonemptyText (ing : Ingress) (name : String) (default : String) : String :=
  match textOf ing name with
  | .ok value => if value = "" then default else value
  | .error _ => default

end IngressController.Annotations
