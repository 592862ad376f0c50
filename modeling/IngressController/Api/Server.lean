import IngressController.Api.Client
import IngressController.Cluster.Selector
import IngressController.Election.Lease
import IngressController.Stores

/-!
# An API server in memory

Holds objects as JSON and gives an object a new, higher version at each change. A status is written
as a merge patch of which only the status is taken, so that what others have written to the rest of
the object stays. Requests of a given list are refused with status 500, whether they are given by
method and kind alone or with the key of an object.
-/

set_option autoImplicit false

namespace IngressController.Api

open Object

/-- An API server. -/
structure Server where
  /-- The objects by the plural of their kind and by their key. -/
  objects : TextMap (TextMap Json) := ∅
  /-- The time of day by which leases end. It stands still. -/
  clock : String := "2026-11-19T00:00:00Z"
  /-- The version given last. -/
  version : Nat := 0
  /-- The requests that are refused. -/
  failing : List String := []
  /-- The Ingresses whose status has been written so far, as they were afterwards. -/
  writes : List Ingress := []

namespace Server

/-! ### Objects -/

/-- The objects of a kind by their keys. -/
def ofKind (s : Server) (plural : String) : TextMap Json :=
  (s.objects.get? plural).getD ∅

/-- The metadata of an object, as far as it can be read. -/
def metadataOf (object : Json) : Metadata :=
  ((object.member? "metadata").bind Metadata.ofJson?).getD {}

/-- An object with another version. -/
def withVersion (version : Nat) (object : Json) : Json :=
  let metadata := ((object.member? "metadata").bind Json.obj?).getD []
  let metadata := Json.setMember "resourceVersion" (.str (Text.decimal version)) metadata
  .obj (Json.setMember "metadata" (.obj metadata) (object.obj?.getD []))

/-- Stores an object under a key as a new version. -/
def store (s : Server) (plural key : String) (object : Json) : Server :=
  let version := s.version + 1
  let changed := (s.ofKind plural).insert key (withVersion version object)
  { s with version, objects := s.objects.insert plural changed }

/-- The number of objects. -/
def size (s : Server) : Nat :=
  (s.objects.values.map (·.entries.length)).foldl (· + ·) 0

/-- Adds an object or changes it. -/
def put (s : Server) (kind : Kind) (object : Json) : Server :=
  s.store kind.plural (metadataOf object).key object

/-- Deletes the object of a kind that has a key. -/
def delete (s : Server) (kind : Kind) (key : String) : Server :=
  { s with objects := s.objects.insert kind.plural ((s.ofKind kind.plural).erase key) }

/-- The objects of a kind, read. -/
def readAll {α : Type} (s : Server) (kind : Kind) (read : Json → Option α) : List α :=
  (s.ofKind kind.plural).values.filterMap read

/-! ### Requests -/

/-- Whether a request is refused. The key is that of the object it is about, if it is about one. -/
def refuses (s : Server) (method plural : String) (key : Option String) : Bool :=
  let text := method ++ " " ++ plural
  s.failing.contains text ||
    key.any fun key => s.failing.contains (text ++ " " ++ key)

/-- A response that reports an error. -/
def errorResponse (code : Nat) : Response where
  status := code
  body := .obj [("kind", .str "Status"), ("status", .str "Failure"), ("code", .int code)]

/-- What a request is about. -/
inductive Target where
  /-- The objects of a kind in a namespace. -/
  | list (namespaceName plural : String)
  /-- The object of a kind with a key. -/
  | object (plural key : String)
  /-- The status of an Ingress. -/
  | status (key : String)

/-- What the path of a request is about. -/
def target? (path : String) : Option Target :=
  match Text.splitOn '/' path with
  | ["", "api", "v1", "nodes", name] => some (.object "nodes" ("/" ++ name))
  | ["", "api", "v1", "namespaces", namespaceName, plural] => some (.list namespaceName plural)
  | ["", "api", "v1", "namespaces", namespaceName, plural, name] =>
    some (.object plural (namespaceName ++ "/" ++ name))
  | ["", "apis", "networking.k8s.io", "v1", "namespaces", namespaceName, plural, name] =>
    some (.object plural (namespaceName ++ "/" ++ name))
  | ["", "apis", "networking.k8s.io", "v1", "namespaces", namespaceName, _, name, "status"] =>
    some (.status (namespaceName ++ "/" ++ name))
  | _ => none

/-- The objects of a kind in a namespace that match a selector, all on one page. -/
def listResponse (s : Server) (namespaceName plural selector : String) : Response :=
  let found := (s.ofKind plural).values.filter fun object =>
    let metadata := metadataOf object
    metadata.namespaceText == namespaceName && Cluster.matchesSelector selector metadata
  { status := 200, body := .obj [("metadata", .obj []), ("items", .arr found)] }

/-- An object with its status merged with that of a patch. -/
def patchStatus (object patch : Json) : Json :=
  match patch.obj?.bind (Json.lookup "status") with
  | some status => object.mergePatch (.obj [("status", status)])
  | none => object

/-- The server after the status of an Ingress has been patched, and the response. -/
def patchResponse (s : Server) (key : String) (patch : Json) : Response × Server :=
  match (s.ofKind "ingresses").get? key with
  | none => (errorResponse 404, s)
  | some old =>
    let s := s.store "ingresses" key (patchStatus old patch)
    let stored := ((s.ofKind "ingresses").get? key).getD old
    let written := (Ingress.ofJson? stored).toList
    ({ status := 200, body := stored }, { s with writes := s.writes ++ written })

/-- The response to a request, and the server after it. -/
def respond (s : Server) (r : Request) : Response × Server :=
  match target? r.location.path, r.method with
  | some (.list namespaceName plural), .get =>
    if s.refuses r.method.text plural none then (errorResponse 500, s)
    else (s.listResponse namespaceName plural ((r.location.value? "labelSelector").getD ""), s)
  | some (.object plural key), .get =>
    if s.refuses r.method.text plural (some key) then (errorResponse 500, s)
    else match (s.ofKind plural).get? key with
      | some object => ({ status := 200, body := object }, s)
      | none => (errorResponse 404, s)
  | some (.status key), .patch =>
    if s.refuses r.method.text "ingresses" (some key) then (errorResponse 500, s)
    else s.patchResponse key (r.body.getD .null)
  | _, _ => (errorResponse 404, s)

/-- Answers requests. -/
def answer (r : Request) : StateT Server Reported Reply := fun s =>
  let (response, s) := s.respond r
  pure (.ok response, s)

/-- Makes a call. This server gives every list on one page. -/
def call (c : Cluster.Call) : StateT Server Reported c.Outcome :=
  (perform 1 c).run answer

/-! ### Leases -/

/-- The namespace whose leases a path is about, and the name of one of them. -/
def leasePath? (path : String) : Option (String × Option String) :=
  match Text.splitOn '/' path with
  | ["", "apis", "coordination.k8s.io", "v1", "namespaces", namespaceName, "leases"] =>
    some (namespaceName, none)
  | ["", "apis", "coordination.k8s.io", "v1", "namespaces", namespaceName, "leases", name] =>
    some (namespaceName, some name)
  | _ => none

/-- The key of the lease at a place. -/
def leaseKey? (location : Except Cluster.Flaw Location) : Option String :=
  match location.toOption.bind fun l => leasePath? l.path with
  | some (namespaceName, some name) => some (namespaceName ++ "/" ++ name)
  | _ => none

/-- The object that is kept as the lease with a key, if there is one. -/
def lease? (s : Server) (key : String) : Option Json :=
  (s.ofKind Kind.lease.plural).get? key

/-- The time of day. -/
def time (s : Server) : Int :=
  (Text.readInstant? s.clock).getD 0

/-- The lease at a place, if there is one. Reading it fails where there is no request for it, where
the request is refused, or where the object is no lease. -/
def readLease (s : Server) (location : Except Cluster.Flaw Location) :
    Except Unit (Option Election.Lease) :=
  match location, leaseKey? location with
  | .error _, _ => .error ()
  | .ok _, none => .ok none
  | .ok _, some key =>
    if s.refuses "GET" "leases" (some key) then .error ()
    else match (s.lease? key).map Election.Lease.ofJson? with
      | some none => .error ()
      | some (some lease) => .ok (some lease)
      | none => .ok none

/-- The server with a free lease of a name, created at the place of a list; this can be refused. -/
def createLease (s : Server) (location : Except Cluster.Flaw Location) (name : String) :
    Except Unit Server :=
  match location.toOption.bind fun l => leasePath? l.path with
  | some (namespaceName, none) =>
    let key := namespaceName ++ "/" ++ name
    if s.refuses "POST" "leases" (some key) then .error ()
    else .ok (s.put .lease (Election.Lease.given namespaceName name none false))
  | _ => .error ()

/-- The server with the lease at a place patched. This fails where there is none, and it can be
refused. -/
def changeLease (s : Server) (location : Except Cluster.Flaw Location) (patch : Json) :
    Except Unit Server :=
  match leaseKey? location with
  | none => .error ()
  | some key =>
    match s.lease? key with
    | some object =>
      if s.refuses "PATCH" "leases" (some key) then .error ()
      else .ok (s.store Kind.lease.plural key (object.mergePatch patch))
    | none => .error ()

/-! ### What is watched -/

/-- The stores with the objects of one kind as they are. -/
def refreshStore (s : Server) (stores : Stores) : Kind → Stores
  | .ingress => { stores with ingresses := ⟨s.readAll .ingress Ingress.ofJson?⟩ }
  | .service => { stores with services := ⟨s.readAll .service Service.ofJson?⟩ }
  | .endpoints => { stores with endpoints := ⟨s.readAll .endpoints Endpoints.ofJson?⟩ }
  | .secret => { stores with secrets := ⟨s.readAll .secret Secret.ofJson?⟩ }
  | .configMap => { stores with configMaps := ⟨s.readAll .configMap ConfigMap.ofJson?⟩ }
  | _ => stores

end Server

end IngressController.Api
