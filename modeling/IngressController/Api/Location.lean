import IngressController.Cluster.Call
import IngressController.Text.FormEncoding
import IngressController.Text.Split

/-!
# Where requests are sent to

A request is sent to a path and carries parameters. Both are written as one text: a question mark
ends the path, ampersands stand between the parameters, and a hash sign ends what is sent. Names are
put into this text as they are, so that these marks count in names, too, and a name with a character
that must not stand in it cannot be asked for.
-/

set_option autoImplicit false

namespace IngressController.Api

/-- The place of a request. -/
structure Location where
  path : String
  /-- The parameters, in form encoding. -/
  parameters : List String := []
  deriving DecidableEq

namespace Location

/-- Whether a character shows in ASCII and is none of some others, or is beyond ASCII. -/
def isPlain (others : List Char) (c : Char) : Bool :=
  0x80 ≤ c.toNat || 0x21 ≤ c.toNat && c.toNat < 0x7F && !others.contains c

/-- Whether a character can stand in a path. -/
def isPathChar : Char → Bool :=
  isPlain ['#', '<', '>', '?', '\x60']

/-- Whether a character can stand behind a path. -/
def isQueryChar : Char → Bool :=
  isPlain ['"', '#', '<', '>']

/-- The number of bytes that a place can have. -/
def maxSize : Nat := 65534

/-- Reads a place. -/
def parse (text : String) : Except Cluster.Flaw Location :=
  let ends (c : Char) : Bool := c == '?' || c == '#'
  let path := text.toList.takeWhile (!ends ·)
  let query := match text.toList.dropWhile (!ends ·) with
    | '?' :: rest => rest.takeWhile (· ≠ '#')
    | _ => []
  if maxSize < text.utf8ByteSize then .error .tooLong
  else if path.all isPathChar && query.all isQueryChar then
    .ok { path := String.ofList path
          parameters := (Text.splitOn '&' (String.ofList query)).filter (· ≠ "") }
  else .error .badCharacter

/-- A parameter with a name and a value. -/
def parameter (name value : String) : String :=
  name ++ "=" ++ Text.formEncode value

/-- The place of a path with parameters. -/
def withParameters (path : String) (parameters : List (String × String)) :
    Except Cluster.Flaw Location :=
  let texts := parameters.map fun (name, value) => "&" ++ parameter name value
  parse (path ++ "?" ++ String.join texts)

/-- The place of an object in a list; an object without a name has none. -/
def ofObject (list name : String) : Except Cluster.Flaw Location :=
  if name = "" then .error .noName else parse (list ++ "/" ++ name)

/-- The place of a part of an object. -/
def ofPart (list name part : String) : Except Cluster.Flaw Location :=
  if name = "" then .error .noName
  else withParameters (list ++ "/" ++ name ++ "/" ++ part) []

/-- The value of the first parameter with a name. -/
def value? (l : Location) (name : String) : Option String :=
  (l.parameters.filterMap (Text.splitOnce '=')).lookup name |>.map Text.formDecode

end Location

/-! ### Paths -/

/-- Where pods, nodes and Services are. -/
def coreRoot : String := "/api/v1"

/-- Where Ingresses are. -/
def networkingRoot : String := "/apis/networking.k8s.io/v1"

/-- Where leases are. -/
def coordinationRoot : String := "/apis/coordination.k8s.io/v1"

/-- The path of the objects of a kind in a namespace. -/
def listPath (root namespaceName plural : String) : String :=
  root ++ "/namespaces/" ++ namespaceName ++ "/" ++ plural

end IngressController.Api
