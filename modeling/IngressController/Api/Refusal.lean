import IngressController.Object.Decoder

/-!
# What a refusal says

The body of a refused request carries the code of an error, among other members. It is an object, or
a list of the values of the members in their order, where those at the end can be left out. A body
with a member of another type cannot be read at all.
-/

set_option autoImplicit false

namespace IngressController.Api

open Object

/-- A value as an object, where a list gives the values of members in order. -/
def named? (names : List String) : Json → Option Json
  | .obj members => some (.obj members)
  | .arr items =>
    if items.length ≤ names.length then some (.obj (names.zip items)) else none
  | _ => none

/-- A number without a sign that has so many bits. -/
def uint (bits : Nat) (json : Json) : Option Int :=
  json.int?.filter fun i => decide (0 ≤ i ∧ i < Nat.pow 2 bits)

/-- A member that has a default if it is absent but must not be `null`. -/
def defaulted {α : Type} (json : Json) (name : String) (default : α) (read : Json → Option α) :
    Option α :=
  match given? json name with
  | none => some default
  | some value => read value

/-- Accepts a value whose members with some names are texts, as far as there are any. -/
def textsIn? (names : List String) (json : Json) : Option Unit :=
  if names.all fun name => (defaulted json name "" Json.str?).isSome then some () else none

/-- The word for how a request has ended, by itself or as the name of an empty member. -/
def endingWord? (json : Json) : Option String :=
  let word? := match json with
    | .str word => some word
    | .obj [(word, .null)] => some word
    | _ => none
  word?.filter fun word => word == "Success" || word == "Failure"

/-- Accepts the cause of a refusal. -/
def readCause? (json : Json) : Option Unit := do
  let names := ["reason", "message", "field"]
  textsIn? names (← named? names json)

/-- Accepts the details of a refusal. -/
def readDetails? (json : Json) : Option Unit := do
  let names := ["name", "group", "kind", "uid"]
  let json ← named? (names ++ ["causes", "retryAfterSeconds"]) json
  textsIn? names json
  let _ ← defaulted json "causes" [] (list readCause?)
  let _ ← defaulted json "retryAfterSeconds" 0 (uint 32)

/-- The token for the next page that the metadata of a list carries, if there is one. -/
def readToken? (metadata : Json) : Option (Option String) := do
  let _ ← metadata.obj?
  let _ ← optional metadata "resourceVersion" Json.str?
  let _ ← optional metadata "selfLink" Json.str?
  let _ ← optional metadata "remainingItemCount" int64
  optional metadata "continue" Json.str?

/-- The code of an error that the body of a response reports, zero if it gives none. -/
def errorCode? (body : Json) : Option Int := do
  let body ← named? ["status", "code", "message", "metadata", "reason", "details"] body
  let _ ← optional body "status" endingWord?
  let _ ← optional body "metadata" readToken?
  let _ ← optional body "details" readDetails?
  textsIn? ["message", "reason"] body
  defaulted body "code" 0 (uint 16)

end IngressController.Api
