import IngressController.Api.Server
import IngressController.Status.Host

/-!
# The API server and the stores that are kept from it

The controller keeps a store of the objects of each kind that it watches. A store is filled when the
objects of its kind have been listed, and from then on it follows every change on the server at
once.
-/

set_option autoImplicit false

namespace IngressController.Controller

open Object Api

/-- An API server and the stores that are kept from it. -/
structure Site where
  server : Server := {}
  stores : Stores := {}
  /-- The kinds that have been listed. -/
  listed : List Kind := []

namespace Site

/-- The site with the stores as the server has their objects, as far as they have been listed. -/
def follow (s : Site) : Site :=
  { s with stores := s.listed.foldl s.server.refreshStore s.stores }

/-- The site after something has changed on the server. -/
def change (f : Server → Server) (s : Site) : Site :=
  { s with server := f s.server }.follow

/-- Lists the objects of a kind; this can be refused. -/
def list? (kind : Kind) (s : Site) : Option Site :=
  if s.server.refuses "GET" kind.plural none then none
  else some { s with listed := s.listed ++ [kind] }.follow

/-- Makes a call to the server, which the stores follow. -/
def call (c : Cluster.Call) : StateT Site Reported c.Outcome := fun s =>
  let r := (Server.call c).run s.server
  { value := (r.value.1, s.change fun _ => r.value.2), notes := r.notes }

/-- The surroundings of the passes. -/
def surroundings : Status.Surroundings Site where
  call := call
  watched s := s.stores.ingresses.objects

end Site

/-- The filling of one store. -/
structure Reflector where
  kind : Kind
  /-- How often listing has been refused. -/
  refusals : Nat := 0
  /-- When the objects are to be listed; never again when they have been. -/
  listAt : Option Nat
  deriving DecidableEq

namespace Reflector

/-- The wait after so many refusals: longer each time, at most thirty seconds. -/
def backoff (refusals : Nat) : Nat :=
  min 30000 (800 * Nat.pow 2 refusals)

/-- Whether the objects are to be listed at a time. -/
def isDue (r : Reflector) (now : Nat) : Bool :=
  r.listAt.any fun time => decide (time ≤ now)

/-- Lists the objects, or waits for the next attempt. -/
def list (r : Reflector) (now : Nat) (s : Site) : Reported (Reflector × Site) :=
  match s.list? r.kind with
  | some s => pure ({ r with listAt := none }, s)
  | none => do
    Reported.log .warn "watch error"
    return ({ r with refusals := r.refusals + 1, listAt := some (now + backoff r.refusals) }, s)

end Reflector

end IngressController.Controller
