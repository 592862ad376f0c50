/-!
# JSON values

The values that requests to the cluster's API and its answers carry. Numbers are integers: no
object field that this program reads or writes holds a fraction. The members of an object keep
their order, and of two members with one name the later one counts.

`mergePatch` applies a merge patch in the sense of the JSON merge patch format: the members of an
object are merged one by one, a `null` removes a member, and everything else, lists included, is
replaced as a whole.
-/

set_option autoImplicit false

namespace IngressController

/-- A JSON value. -/
inductive Json where
  | null
  | bool (value : Bool)
  | int (value : Int)
  | str (value : String)
  | arr (items : List Json)
  | obj (members : List (String × Json))
  deriving Inhabited

namespace Json

/-! ### Reading -/

/-- The value of the last member with a name. -/
def lookup (name : String) : List (String × Json) → Option Json
  | [] => none
  | (key, value) :: rest =>
    match lookup name rest with
    | some later => some later
    | none => if key = name then some value else none

/-- The member of an object, where an absent member and `null` are the same. -/
def member? (json : Json) (name : String) : Option Json :=
  match json with
  | obj members =>
    match lookup name members with
    | some null => none
    | found => found
  | _ => none

/-- The text of a string value. -/
def str? : Json → Option String
  | str s => some s
  | _ => none

/-- The number of an integer value. -/
def int? : Json → Option Int
  | int i => some i
  | _ => none

/-- The value of a boolean value. -/
def bool? : Json → Option Bool
  | bool b => some b
  | _ => none

/-- The items of a list value. -/
def arr? : Json → Option (List Json)
  | arr items => some items
  | _ => none

/-- The members of an object value. -/
def obj? : Json → Option (List (String × Json))
  | obj members => some members
  | _ => none

/-! ### Writing -/

/-- An object of those members that have a value. -/
def ofMembers (members : List (String × Option Json)) : Json :=
  obj (members.filterMap fun (name, value?) => value?.map fun value => (name, value))

/-- A list of texts. -/
def texts (texts : List String) : Json :=
  arr (texts.map str)

/-- A value that may be missing, as `null` if it is. -/
def orNull {α : Type} (encode : α → Json) : Option α → Json
  | some a => encode a
  | none => null

/-! ### Merge patches -/

/-- Removes every member with a name. -/
def dropMember (name : String) (members : List (String × Json)) : List (String × Json) :=
  members.filter fun (key, _) => key != name

/-- Sets a member in the place of the first one with its name, or adds it at the end. No other
member with that name is left. -/
def setMember (name : String) (value : Json) : List (String × Json) → List (String × Json)
  | [] => [(name, value)]
  | (key, old) :: rest =>
    if key = name then (key, value) :: dropMember name rest
    else (key, old) :: setMember name value rest

mutual

/-- Applies a merge patch to a value. -/
def mergePatch (target : Json) : Json → Json
  | obj patch =>
    match target with
    | obj members => obj (mergeMembers members patch)
    | _ => obj (mergeMembers [] patch)
  | null => null
  | bool b => bool b
  | int i => int i
  | str s => str s
  | arr items => arr items

/-- Applies the members of a merge patch one by one to the members of an object. -/
def mergeMembers (members : List (String × Json)) :
    List (String × Json) → List (String × Json)
  | [] => members
  | (name, value) :: rest =>
    match value with
    | null => mergeMembers (dropMember name members) rest
    | value =>
      let old := (lookup name members).getD null
      mergeMembers (setMember name (mergePatch old value) members) rest

end

end Json

end IngressController
