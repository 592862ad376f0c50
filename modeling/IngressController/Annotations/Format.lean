import IngressController.Text.Blank

/-!
# The forms that annotation values may have

Values end up in the configuration of the proxy word for word, so a value that is not a number or
a boolean is checked against a narrow form first. Letters and digits are those of ASCII; blanks
are those of Unicode.
-/

set_option autoImplicit false

namespace IngressController.Annotations

/-! ### Characters -/

/-- An ASCII letter. -/
def isLetter (c : Char) : Bool :=
  ('a' ≤ c && c ≤ 'z') || ('A' ≤ c && c ≤ 'Z')

/-- An ASCII digit. -/
def isDigit (c : Char) : Bool :=
  '0' ≤ c && c ≤ '9'

/-- A character of the name of a header. -/
def isHeaderChar (c : Char) : Bool :=
  isLetter c || isDigit c || c == '-' || c == '_'

/-- A character of the name of a host. -/
def isHostChar (c : Char) : Bool :=
  isLetter c || isDigit c || c == '-' || c == '.'

/-! ### Lists of names -/

/-- What the last character of the part of a list read so far was. -/
inductive ListState where
  /-- There was none yet. -/
  | start
  /-- It was a character of a name. -/
  | name
  /-- It was the comma behind a name. -/
  | comma
  /-- It was a blank behind a name or a comma. -/
  | blank
  deriving DecidableEq

/-- The state after one more character, if a list may go on with it. -/
def ListState.next? (nameChar : Char → Bool) (s : ListState) (c : Char) : Option ListState :=
  if nameChar c then some .name
  else if c = ',' then if s = .name then some .comma else none
  else if Text.isBlank c then if s = .name ∨ s = .comma then some .blank else none
  else none

/-- Whether a list that has been read up to a state can go on with the given characters and end
behind them. -/
def isNameListFrom (nameChar : Char → Bool) (s : ListState) : List Char → Bool
  | [] => s != .start
  | c :: rest =>
    match s.next? nameChar c with
    | some s => isNameListFrom nameChar s rest
    | none => false

/-- Names with a comma, a blank or both behind each; behind the last one they may stand as well. -/
def isNameList (nameChar : Char → Bool) (value : String) : Bool :=
  isNameListFrom nameChar .start value.toList

/-- A list of request methods. -/
def isMethodList (value : String) : Bool :=
  isNameList isLetter value

/-- A list of headers. -/
def isHeaderList (value : String) : Bool :=
  isNameList isHeaderChar value

/-! ### Origins, sizes and choices -/

/-- A port behind a host: nothing, or a colon and digits. -/
def isPortPart : List Char → Bool
  | [] => true
  | ':' :: digit :: digits => (digit :: digits).all isDigit
  | _ => false

/-- A host, maybe with a port. -/
def isHostPart (cs : List Char) : Bool :=
  isPortPart (cs.dropWhile isHostChar)

/-- An allowed origin: none, every one, or the address of a host. -/
def isOrigin (value : String) : Bool :=
  match value.toList with
  | [] => true
  | ['*'] => true
  | 'h' :: 't' :: 't' :: 'p' :: 's' :: ':' :: '/' :: '/' :: host => isHostPart host
  | 'h' :: 't' :: 't' :: 'p' :: ':' :: '/' :: '/' :: host => isHostPart host
  | _ => false

/-- A size: none, or digits with at most one unit behind them. -/
def isBodySize (value : String) : Bool :=
  match value.toList with
  | [] => true
  | c :: rest =>
    isDigit c && match rest.dropWhile isDigit with
      | [] => true
      | [suffix] => suffix == 'k' || suffix == 'm' || suffix == 'g'
      | _ => false

/-- The ways to derive the value of a session cookie. -/
def isCookieHash (value : String) : Bool :=
  value == "index" || value == "md5" || value == "sha1"

/-- The ways to put a session cookie into a response. -/
def isCookieStrategy (value : String) : Bool :=
  value == "insert" || value == "rewrite" || value == "prefix"

/-- A truth value in one of its accepted spellings. -/
def parseBool? (value : String) : Option Bool :=
  if ["1", "t", "T", "TRUE", "true", "True"].contains value then some true
  else if ["0", "f", "F", "FALSE", "false", "False"].contains value then some false
  else none

end IngressController.Annotations
