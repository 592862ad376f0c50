import IngressController.Json
import IngressController.Text.Map

/-!
# Reading objects of the cluster from JSON

Members that an object does not have, or has as `null`, count as absent; members that are not
named here are ignored; a member of the wrong type makes the whole object unreadable, and so does
the claim to be an object of another kind. A list may leave out a member that the cluster requires:
it then has its zero value.
-/

set_option autoImplicit false

namespace IngressController.Object

variable {α : Type}

/-- Reads a member that may be absent. -/
def optional (json : Json) (name : String) (read : Json → Option α) : Option (Option α) :=
  match json.member? name with
  | none => some none
  | some value => (read value).map some

/-- Reads a member that has a default. -/
def withDefault (json : Json) (name : String) (default : α) (read : Json → Option α) : Option α :=
  (optional json name read).map (·.getD default)

/-- Reads every item of a list. -/
def list (read : Json → Option α) (json : Json) : Option (List α) :=
  json.arr?.bind fun items => items.mapM read

/-- Reads a map from names to texts. -/
def textMap (json : Json) : Option (TextMap String) := do
  let members ← json.obj?
  let entries ← members.mapM fun (name, value) => value.str?.map fun text => (name, text)
  some (TextMap.ofList entries)

/-- Reads a number of 32 bits with a sign. -/
def int32 (json : Json) : Option Int :=
  json.int?.filter fun i => decide (-Int.pow 2 31 ≤ i ∧ i < Int.pow 2 31)

/-- Reads a number of 64 bits with a sign. -/
def int64 (json : Json) : Option Int :=
  json.int?.filter fun i => decide (-Int.pow 2 63 ≤ i ∧ i < Int.pow 2 63)

/-- The last member with a name, `null` included. -/
def given? (json : Json) (name : String) : Option Json :=
  json.obj?.bind (Json.lookup name)

/-- Whether a member is absent or the given text. -/
def absentOr (json : Json) (name text : String) : Bool :=
  match given? json name with
  | none => true
  | some value => value.str? == some text

/-- Accepts an object that does not claim to be of another kind. -/
def ofKind (apiVersion kind : String) (json : Json) : Option Unit :=
  if json.obj?.isSome && absentOr json "apiVersion" apiVersion && absentOr json "kind" kind then
    some ()
  else none

end IngressController.Object
