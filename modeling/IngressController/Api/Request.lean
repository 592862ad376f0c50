import IngressController.Api.Location
import IngressController.Api.Refusal

/-!
# Requests to the API server and its responses

Every call is made by requests to the API server: an object is read under its own path, pods are
listed page by page under the path of their namespace, and a status is written as a merge patch
under the path of the status.

A response of the classes for errors carries the code of the error in its body; where the body
cannot be read, the status of the response stands in for it.
-/

set_option autoImplicit false

namespace IngressController.Api

open Object

/-- What a request does. -/
inductive Method where
  | get
  | patch
  deriving DecidableEq

/-- A method in capitals. -/
def Method.text : Method → String
  | get => "GET"
  | patch => "PATCH"

/-- A request. -/
structure Request where
  method : Method
  location : Location
  body : Option Json := none

/-- A response. -/
structure Response where
  status : Nat
  body : Json

/-- The answer to a request: a response, or the reason why there is none. -/
abbrev Reply : Type := Except String Response

/-! ### Responses -/

/-- Whether a response reports an error. -/
def Response.isError (r : Response) : Bool :=
  decide (400 ≤ r.status ∧ r.status < 600)

/-- What the reader makes of the body of a reply. -/
def readReply {α : Type} (read : Json → Option α) : Reply → Except Cluster.Failure α
  | .error reason => .error (.noAnswer reason)
  | .ok response =>
    if response.isError then
      .error (.refused ((errorCode? response.body).getD response.status))
    else match read response.body with
      | some a => .ok a
      | none => .error .unreadable

/-- One page of a list, and the token with which the next page is asked for, if there is one. -/
structure Page (α : Type) where
  items : List α
  token : Option String

/-- Reads a page. An empty token counts as none. -/
def Page.ofJson? {α : Type} (read : Json → Option α) (json : Json) : Option (Page α) := do
  let _ ← json.obj?
  let items ← given? json "items"
  let items ← match items with
    | .null => some []
    | items => list read items
  let token ← defaulted json "metadata" none readToken?
  return { items, token := token.filter (· ≠ "") }

end IngressController.Api
