import IngressController.Status.Ask
import IngressController.Status.Entries

/-!
# Publishing addresses on Ingresses

Each managed Ingress is brought up to date on its own: the addresses it should have are compared
with those that the watched copy shows, and only if they differ the Ingress is read again and its
status written. An update that finds its batch cancelled before it has begun does nothing.
-/

set_option autoImplicit false

namespace IngressController.Status

open Object

/-- What became of an Ingress. -/
inductive UpdateOutcome where
  | updated
  | unchanged
  | failed
  deriving DecidableEq, Repr

/-- The label under which an outcome is counted. -/
def UpdateOutcome.label : UpdateOutcome → String
  | updated => "updated"
  | unchanged => "skipped"
  | failed => "failed"

/-- The addresses that single Ingresses get in place of those of the controller. -/
abbrev CustomEntries : Type := Ingress → Option (List Entry)

/-- The update of one Ingress; without a result it has been cancelled. -/
abbrev Update : Type := Task (Option UpdateOutcome)

/-- Reads an Ingress again and writes its status. -/
def write (ing : Ingress) (wanted : List Entry) : Task UpdateOutcome := do
  let key := ing.metadata.key
  match ← call (.getIngress ing.metadata.namespaceText ing.metadata.nameText) with
  | .error failure =>
    Program.log .warn ("unexpected error searching Ingress " ++ key ++ ": " ++ failure.message)
    return .failed
  | .ok latest =>
    Program.log .info ("updating Ingress " ++ key ++ " status to " ++ showEntries wanted)
    match ← call (.publish (latest.publish wanted)) with
    | .ok () => return .updated
    | .error failure =>
      Program.log .warn ("error updating ingress rule: " ++ failure.message)
      return .failed

/-- Writes the status of an Ingress unless it shows what it should. -/
def bringUpToDate (ing : Ingress) (wanted : List Entry) : Task UpdateOutcome := do
  if sameEntries wanted (sortEntries ing.published) then
    Program.log .debug ("skipping update of Ingress " ++ ing.metadata.key ++ " (no change)")
    return .unchanged
  else write ing wanted

/-- The update of an Ingress to some entries, unless it gets its own. -/
def update (custom : CustomEntries) (token : Token) (entries : List Entry) (ing : Ingress) :
    Update := do
  if ← Program.request (Ask.cancelled token) then return none
  let outcome ← bringUpToDate ing (sortEntries ((custom ing).getD entries))
  Program.measure (.statusUpdate outcome.label)
  return some outcome

/-- The updates of all managed Ingresses to some entries. -/
def updates (config : Config) (custom : CustomEntries) (token : Token) (entries : List Entry) :
    Task (List Update) := do
  let ingresses ← Program.request Ask.ingresses
  return (ingresses.filter config.manages).map (update custom token entries)

end IngressController.Status
