import IngressController.Annotations.Servers
import IngressController.NameReference
import IngressController.Object.Kind

/-!
# The stores of watched objects

A store holds, for each object of its kind, the version seen last. The look-ups of a pass over the
TCP services refuse to answer before the stores have been filled once, so that no pass runs on half
of the objects; other look-ups answer from what is there.

The certificates of a secret lie in files whose paths are made from its namespace and name.
-/

set_option autoImplicit false

namespace IngressController

open Object

/-! ### One store -/

/-- The objects of one kind, each once. -/
structure Store (α : Type) where
  objects : List α := []

namespace Store

variable {α : Type}

instance : EmptyCollection (Store α) := ⟨{}⟩
instance : Inhabited (Store α) := ⟨∅⟩

/-- Puts an object in the place of one that it is a version of, or at the end. -/
def replaceOrAdd (metadata : α → Metadata) (object : α) : List α → List α
  | [] => [object]
  | old :: rest =>
    if (metadata old).sameObject (metadata object) then object :: rest
    else old :: replaceOrAdd metadata object rest

/-- The store after an object has been added or changed. -/
def apply (store : Store α) (metadata : α → Metadata) (object : α) : Store α where
  objects := replaceOrAdd metadata object store.objects

/-- The store after an object has been deleted. -/
def delete (store : Store α) (metadata : α → Metadata) (object : α) : Store α where
  objects := store.objects.filter fun old => !(metadata old).sameObject (metadata object)

/-- The object of a namespace and a name. -/
def find? (store : Store α) (metadata : α → Metadata) (namespaceName name : String) : Option α :=
  store.objects.find? fun object => (metadata object).isAt namespaceName name

end Store

/-! ### A failing look-up -/

/-- Why a look-up could not be answered. -/
structure CacheError where
  /-- The kind of objects that was looked up. -/
  kind : String
  reason : String
  deriving DecidableEq

namespace CacheError

/-- The text of an error. -/
def message (e : CacheError) : String :=
  e.kind ++ " cache lookup failed: " ++ e.reason

/-- The reason before the stores have been filled. -/
def notSynced : String := "cache not synced yet"

end CacheError

/-! ### All stores -/

/-- The stores of all watched kinds. -/
structure Stores where
  ingresses : Store Ingress := ∅
  services : Store Service := ∅
  endpoints : Store Endpoints := ∅
  secrets : Store Secret := ∅
  configMaps : Store ConfigMap := ∅
  /-- The directory of the certificate files. -/
  sslDir : String := "/var/haproxy/ssl"
  /-- Whether every store has been filled once. -/
  synced : Bool := false

namespace Stores

/-- The stores after an object has been added or changed; objects that are not watched are left
out. -/
def apply (s : Stores) : AnyObject → Stores
  | .ingress o => { s with ingresses := s.ingresses.apply (·.metadata) o }
  | .service o => { s with services := s.services.apply (·.metadata) o }
  | .endpoints o => { s with endpoints := s.endpoints.apply (·.metadata) o }
  | .secret o => { s with secrets := s.secrets.apply (·.metadata) o }
  | .configMap o => { s with configMaps := s.configMaps.apply (·.metadata) o }
  | _ => s

/-- The stores after an object has been deleted. -/
def delete (s : Stores) : AnyObject → Stores
  | .ingress o => { s with ingresses := s.ingresses.delete (·.metadata) o }
  | .service o => { s with services := s.services.delete (·.metadata) o }
  | .endpoints o => { s with endpoints := s.endpoints.delete (·.metadata) o }
  | .secret o => { s with secrets := s.secrets.delete (·.metadata) o }
  | .configMap o => { s with configMaps := s.configMaps.delete (·.metadata) o }
  | _ => s

/-- The Service of a namespace and a name. -/
def service? (s : Stores) (namespaceName name : String) : Option Service :=
  s.services.find? (·.metadata) namespaceName name

/-- The Secret of a namespace and a name. -/
def secret? (s : Stores) (namespaceName name : String) : Option Secret :=
  s.secrets.find? (·.metadata) namespaceName name

/-- The data of the config map that a loose reference names. -/
def configMapData? (s : Stores) (reference : String) : Option (TextMap String) := do
  let r ← NameReference.cut? reference
  let found ← s.configMaps.find? (·.metadata) r.namespaceName r.name
  return found.data.getD ∅

/-- The file with the certificate of a secret. -/
def certificatePath (s : Stores) (namespaceName name : String) : String :=
  s.sslDir ++ "/" ++ namespaceName ++ "_" ++ name ++ ".pem"

/-- The file with the certificate authority of a secret. -/
def authorityPath (s : Stores) (namespaceName name : String) : String :=
  s.sslDir ++ "/ca/" ++ namespaceName ++ "_" ++ name ++ ".pem"

/-- The entry of a secret that holds a certificate authority. -/
def authorityEntry : String := "ca.crt"

/-- The certificate authority of the secret that a loose reference names. -/
def authority? (s : Stores) (secret : String) : Option Annotations.Certificate := do
  let r ← NameReference.cut? secret
  let found ← s.secret? r.namespaceName r.name
  let data ← found.data
  if data.contains authorityEntry then
    return { secret := secret, fileName := s.authorityPath r.namespaceName r.name }
  else none

/-! ### Look-ups that wait for the stores to be filled -/

/-- Refuses to answer before the stores have been filled. -/
def whenSynced {α : Type} (s : Stores) (kind : String) (answer : α) : Except CacheError α :=
  if s.synced then .ok answer else .error ⟨kind, CacheError.notSynced⟩

/-- Looks up a Service. -/
def getService (s : Stores) (namespaceName name : String) : Except CacheError (Option Service) :=
  s.whenSynced "service" (s.service? namespaceName name)

/-- Looks up the endpoints of a Service, which have its namespace and its name. -/
def getEndpoints (s : Stores) (service : Service) : Except CacheError (Option Endpoints) :=
  s.whenSynced "endpoints" <| s.endpoints.objects.find? fun e =>
    e.metadata.sameObject service.metadata

/-- Looks up the certificate file of the secret that a loose reference names. -/
def getCertificatePath (s : Stores) (secret : String) : Except CacheError (Option String) :=
  s.whenSynced "secret" do
    let r ← NameReference.cut? secret
    let _ ← s.secret? r.namespaceName r.name
    return s.certificatePath r.namespaceName r.name

end Stores

end IngressController
