import IngressController.Api.Request
import IngressController.Program

/-!
# Calls as requests

Each call of the controller is a program of requests. Lists are read in pages of a hundred: a page
that carries a token is followed by the page for that token, under the same conditions, and the
list is what all pages hold. As nothing bounds the number of pages that a server may give, a limit
is set from outside.
-/

set_option autoImplicit false

namespace IngressController.Api

open Object

/-- A program that makes requests. -/
abbrev Exchange (α : Type) : Type := Program (fun _ : Request => Reply) α

/-- Sends a request and reads the reply. -/
def send {α : Type} (read : Json → Option α) (r : Request) : Exchange (Except Cluster.Failure α) :=
  .ask r fun reply => .done (readReply read reply)

/-- Sends a request to a place, if there is one, and reads the reply. -/
def sendTo {α : Type} (read : Json → Option α) (request : Location → Request) :
    Except Cluster.Flaw Location → Exchange (Except Cluster.Failure α)
  | .ok location => send read (request location)
  | .error flaw => return .error (.unaddressable flaw)

/-- Reads the object with a name in a list. -/
def getObject {α : Type} (read : Json → Option α) (list name : String) :
    Exchange (Except Cluster.Failure α) :=
  sendTo read ({ method := .get, location := · }) (Location.ofObject list name)

/-- The number of items that a page is asked to hold. -/
def pageSize : Nat := 100

/-- The place of the page of a list for a token, or of the first page. -/
def pageLocation (list selector : String) (token : Option String) :
    Except Cluster.Flaw Location :=
  Location.withParameters list <|
    [("limit", Text.decimal pageSize), ("labelSelector", selector)] ++
      token.toList.map fun token => ("continue", token)

/-- Reads the page of a list for a token, or the first page. -/
def getPage {α : Type} (read : Json → Option α) (list selector : String) (token : Option String) :
    Exchange (Except Cluster.Failure (Page α)) :=
  sendTo (Page.ofJson? read) ({ method := .get, location := · }) (pageLocation list selector token)

/-- Reads the page for a token and all that follow it, behind the items found before. -/
def listFrom {α : Type} (read : Json → Option α) (list selector : String) :
    Nat → Option String → List α → Exchange (Except Cluster.Failure (List α))
  | 0, _, _ => return .error .unreadable
  | pages + 1, token, found => do
    match ← getPage read list selector token with
    | .error failure => return .error failure
    | .ok page =>
      match page.token with
      | none => return .ok (found ++ page.items)
      | some token => listFrom read list selector pages (some token) (found ++ page.items)

/-- Reads a whole list of at most so many pages. -/
def listObjects {α : Type} (read : Json → Option α) (list selector : String) (pages : Nat) :
    Exchange (Except Cluster.Failure (List α)) :=
  listFrom read list selector pages none []

/-- The merge patch that writes the status of an Ingress. -/
def statusPatch (ing : Ingress) : Json :=
  .obj [("status", match ing.status with
    | some status => status.toJson
    | none => .null)]

/-- The place of the status of an Ingress. -/
def statusLocation (ing : Ingress) : Except Cluster.Flaw Location :=
  let list := listPath networkingRoot ing.metadata.namespaceText "ingresses"
  Location.ofPart list ing.metadata.nameText "status"

/-- Writes the status of an Ingress. -/
def publish (ing : Ingress) : Exchange (Except Cluster.Failure Ingress) :=
  let request (location : Location) : Request :=
    { method := .patch, location, body := some (statusPatch ing) }
  sendTo Ingress.ofJson? request (statusLocation ing)

/-- Makes a call, reading lists of at most so many pages. -/
def perform (pages : Nat) : (c : Cluster.Call) → Exchange c.Outcome
  | .getPod namespaceName name =>
    getObject Pod.ofJson? (listPath coreRoot namespaceName "pods") name
  | .listPods namespaceName selector =>
    listObjects Pod.ofJson? (listPath coreRoot namespaceName "pods") selector pages
  | .getNode name => getObject Node.ofJson? (coreRoot ++ "/nodes") name
  | .getService namespaceName name =>
    getObject Service.ofJson? (listPath coreRoot namespaceName "services") name
  | .getIngress namespaceName name =>
    getObject Ingress.ofJson? (listPath networkingRoot namespaceName "ingresses") name
  | .publish ing => do return (← publish ing).map fun _ => ()

/-! ### Replies given beforehand -/

/-- Replies that are given one after the other, and the requests they were given to. -/
structure Script where
  responses : List Response := []
  requests : List Request := []

/-- Answers from a script; when it has come to its end, connections are refused. -/
def Script.answer (r : Request) : StateT Script Reported Reply := fun script =>
  let requests := script.requests ++ [r]
  match script.responses with
  | [] => pure (.error "connection refused", { script with requests })
  | response :: responses => pure (.ok response, { responses, requests })

/-- Makes a call on a script. Each page takes a response, so no list has more pages than there are
responses and one. -/
def Script.call (c : Cluster.Call) : StateT Script Reported c.Outcome := fun script =>
  ((perform (script.responses.length + 1) c).run answer).run script

end IngressController.Api
