import IngressController.Logging.Nesting
import IngressController.Text.Alphanumeric
import IngressController.Text.Blank
import IngressController.Text.Numeral

/-!
# Patterns

A condition of a filter can give a regular expression for a value. The patterns that are accepted
are those of the common syntax with alternatives, repetitions, groups with names and flags, escapes
and classes with set operations, without what an automaton cannot follow: references back, looking
around and the ends of words among all of Unicode. Counted repetitions and properties in braces
cannot be written, since a brace ends the condition.

A pattern is checked from left to right. What is checked next depends on the flags that count at a
place, on the groups and classes that are open, and on whether there is anything to repeat. In the
end a pattern must not nest too deep.
-/

set_option autoImplicit false

namespace IngressController.Logging.Pattern

/-- The flags that count at a place, as far as they matter for what is accepted. -/
structure Scope where
  /-- Whether classes are of characters; otherwise they are of bytes. -/
  unicode : Bool := true
  /-- Whether blanks and comments are passed over. -/
  spaced : Bool := false

/-- How far a pattern has been read. -/
structure State where
  scope : Scope := {}
  /-- What is read in the innermost group, or outside of groups. -/
  enclosure : Enclosure := {}
  /-- The flags and enclosures around the groups that are open, the innermost group first. -/
  outer : List (Scope × Enclosure) := []
  /-- The classes that are open, the innermost one first. -/
  classes : List Enclosure := []
  /-- Whether there is something to repeat. -/
  repeatable : Bool := false
  /-- The names of the groups so far. -/
  names : List String := []

/-- Drops blanks and comments, which go from a hash sign to the end of the line. -/
def dropSpace (inComment : Bool) : List Char → List Char
  | [] => []
  | c :: rest =>
    if inComment then dropSpace (c != '\n') rest
    else if c = '#' then dropSpace true rest
    else if Text.isBlank c then dropSpace false rest
    else c :: rest

/-- Drops what is passed over at a place. -/
def Scope.skip (scope : Scope) (cs : List Char) : List Char :=
  if scope.spaced then dropSpace false cs else cs

/-- The state after a part that can be repeated. -/
def State.push (s : State) (depth : Nat) : State :=
  { s with enclosure := s.enclosure.push depth, repeatable := true }

/-! ### Escapes -/

/-- What stands at a place for a character. -/
inductive Atom where
  | literal (c : Char)
  /-- A class with a name of its own. -/
  | set
  /-- A condition on the place. -/
  | assertion

/-- The value of so many hexadecimal digits. -/
def readHex (scope : Scope) : Nat → Nat → List Char → Option (Nat × List Char)
  | 0, value, cs => some (value, cs)
  | digits + 1, value, cs =>
    match scope.skip cs with
    | [] => none
    | c :: rest =>
      (Text.digitValue? 16 c).bind fun d => readHex scope digits (value * 16 + d) rest

/-- The character with a code point of so many digits. A byte above ASCII is none by itself. -/
def readCodePoint (scope : Scope) (digits : Nat) (cs : List Char) : Option (Atom × List Char) := do
  let (value, rest) ← readHex scope digits 0 cs
  if value.isValidChar ∧ (scope.unicode = true ∨ digits ≠ 2 ∨ value < 0x80) then
    return (.literal (Char.ofNat value), rest)
  else none

/-- The class of a general category with a name of one letter. -/
def readProperty (scope : Scope) (cs : List Char) : Option (Atom × List Char) :=
  match scope.skip cs with
  | [] => none
  | c :: rest => if scope.unicode && "CLMNPSZ".contains c.toUpper then some (.set, rest) else none

/-- Reads what stands behind a backslash. -/
def readEscape (scope : Scope) : List Char → Option (Atom × List Char)
  | [] => none
  | 'x' :: rest => readCodePoint scope 2 rest
  | 'u' :: rest => readCodePoint scope 4 rest
  | 'U' :: rest => readCodePoint scope 8 rest
  | 'p' :: rest | 'P' :: rest => readProperty scope rest
  | 'd' :: rest | 's' :: rest | 'w' :: rest => some (.set, rest)
  | 'D' :: rest | 'S' :: rest | 'W' :: rest => if scope.unicode then some (.set, rest) else none
  | 'a' :: rest => some (.literal '\x07', rest)
  | 't' :: rest => some (.literal '\t', rest)
  | 'n' :: rest => some (.literal '\n', rest)
  | 'v' :: rest => some (.literal '\x0b', rest)
  | 'f' :: rest => some (.literal '\x0c', rest)
  | 'r' :: rest => some (.literal '\r', rest)
  | 'A' :: rest | 'z' :: rest => some (.assertion, rest)
  | 'b' :: rest | 'B' :: rest | '<' :: rest | '>' :: rest =>
    if scope.unicode then none else some (.assertion, rest)
  | c :: rest => if c.isAlphanum || 0x80 ≤ c.toNat then none else some (.literal c, rest)

/-! ### Groups -/

/-- Whether a text can be the name of a group. -/
def isName : List Char → Bool
  | [] => false
  | c :: rest =>
    (c == '_' || Text.isAlphabetic c) &&
      rest.all fun c => "_.[]".contains c || Text.isAlphanumeric c

/-- Opens a group. -/
def State.openGroup (s : State) (scope : Scope) : State :=
  { s with scope, enclosure := {}, outer := (s.scope, s.enclosure) :: s.outer, repeatable := false }

/-- Opens a group with a name. -/
def readNamed (s : State) (cs : List Char) : Option (State × List Char) :=
  let name := cs.takeWhile (· ≠ '>')
  match cs.dropWhile (· ≠ '>') with
  | [] => none
  | _ :: rest =>
    if isName name && !s.names.contains (String.ofList name) then
      some ({ s.openGroup s.scope with names := String.ofList name :: s.names }, rest)
    else none

/-- The state of a flag behind flags that are set and cleared. -/
def flagAfter (on off : List Char) (flag : Char) (old : Bool) : Bool :=
  if on.contains flag then true else if off.contains flag then false else old

/-- The flags that count behind flags that are set and cleared. -/
def Scope.after (scope : Scope) (on off : List Char) : Scope where
  unicode := flagAfter on off 'u' scope.unicode
  spaced := flagAfter on off 'x' scope.spaced

/-- Whether flags are well written: each is known and stands once, and a hyphen stands at most once
and in front of one. -/
def areFlags (flags : List Char) : Bool :=
  flags.all ("imsUuRx-".contains ·) && decide flags.Nodup && flags.getLast? != some '-'

/-- Reads flags, which count up to the end of the group around them or in a group of their own. -/
def readFlags (s : State) (cs : List Char) : Option (State × List Char) :=
  let ends (c : Char) : Bool := c == ':' || c == ')'
  let flags := cs.takeWhile (!ends ·)
  let scope := s.scope.after (flags.takeWhile (· ≠ '-')) (flags.dropWhile (· ≠ '-'))
  if !areFlags flags then none
  else match cs.dropWhile (!ends ·) with
    | ':' :: rest => some (s.openGroup scope, rest)
    | ')' :: rest =>
      if flags.isEmpty then none
      else some ({ s with scope, enclosure := s.enclosure.push 0, repeatable := false }, rest)
    | _ => none

/-- Reads what stands behind the parenthesis that opens a group. -/
def readGroup (s : State) (cs : List Char) : Option (State × List Char) :=
  match s.scope.skip cs with
  | '?' :: 'P' :: '<' :: rest => readNamed s rest
  | '?' :: '<' :: rest => readNamed s rest
  | '?' :: rest => readFlags s rest
  | cs => some (s.openGroup s.scope, cs)

/-! ### Classes -/

/-- The names of the classes of ASCII. -/
def asciiClasses : List String :=
  ["alnum", "alpha", "ascii", "blank", "cntrl", "digit", "graph", "lower", "print", "punct",
    "space", "upper", "word", "xdigit"]

/-- Reads a class of ASCII behind its bracket, and says whether it is negated. -/
def readAsciiClass : List Char → Option (Bool × List Char)
  | ':' :: cs =>
    let negated := cs.head? == some '^'
    let cs := if negated then cs.drop 1 else cs
    match cs.dropWhile (· ≠ ':') with
    | ':' :: ']' :: rest =>
      if asciiClasses.contains (String.ofList (cs.takeWhile (· ≠ ':'))) then some (negated, rest)
      else none
    | _ => none
  | _ => none

/-- Reads the hyphens in front as members of a class. -/
def readHyphens (scope : Scope) (members : Enclosure) : Nat → List Char → Enclosure × List Char
  | 0, cs => (members, cs)
  | fuel + 1, cs =>
    match cs with
    | '-' :: rest => readHyphens scope (members.push 0) fuel (scope.skip rest)
    | cs => (members, cs)

/-- Reads the start of a class behind its bracket. Hyphens there stand for themselves, and so does a
closing bracket that is the first. -/
def openClass (scope : Scope) (cs : List Char) : Option (Enclosure × List Char) :=
  let cs := scope.skip cs
  let negated := cs.head? == some '^'
  let cs := if negated then scope.skip (cs.drop 1) else cs
  let (hyphens, cs) := readHyphens scope {} cs.length cs
  if negated && !scope.unicode then none
  else match cs with
    | ']' :: rest => if hyphens = {} then some (hyphens.push 0, rest) else some (hyphens, cs)
    | cs => some (hyphens, cs)

/-- Reads one member of a class. -/
def readMember (scope : Scope) : List Char → Option (Atom × List Char)
  | [] => none
  | '\\' :: rest => readEscape scope rest
  | c :: rest => some (.literal c, rest)

/-- Whether an atom can be in a class. A class of bytes has no characters but those of ASCII. -/
def Scope.admits (scope : Scope) : Atom → Bool
  | .literal c => scope.unicode || decide (c.toNat < 0x80)
  | .set => true
  | .assertion => false

/-- Whether two atoms are the ends of a range. -/
def Scope.admitsRange (scope : Scope) : Atom → Atom → Bool
  | .literal first, .literal last =>
    scope.admits (.literal first) && scope.admits (.literal last) && decide (first ≤ last)
  | _, _ => false

/-- The character that decides whether a hyphen in front makes a range. Where blanks and comments
are passed over, these are blanks and the sign of a comment, but not the comment itself. -/
def Scope.decider? (scope : Scope) (cs : List Char) : Option Char :=
  if scope.spaced then
    match cs.dropWhile Text.isBlank with
    | '#' :: comment => (comment.dropWhile Text.isBlank).head?
    | cs => cs.head?
  else cs.head?

/-- Reads a member of a class or a range. A hyphen that stands at the end or before another one
makes no range. -/
def readRange (scope : Scope) (cs : List Char) : Option (List Char) := do
  let (first, rest) ← readMember scope cs
  let single : Option (List Char) := if scope.admits first then some rest else none
  match scope.skip rest with
  | '-' :: rest =>
    match scope.decider? rest with
    | some ']' | some '-' => single
    | _ =>
      let (last, rest) ← readMember scope (scope.skip rest)
      if scope.admitsRange first last then some rest else none
  | _ => single

/-! ### The whole pattern -/

/-- Reads on inside a class, with what is outside of it. -/
def stepInside (s : State) (members : Enclosure) (outer : List Enclosure) :
    List Char → Option (State × List Char)
  | ']' :: rest =>
    let depth := members.depth + 1
    match outer with
    | [] => some ({ s with classes := [] }.push depth, rest)
    | around :: outer => some ({ s with classes := around.push depth :: outer }, rest)
  | '[' :: rest =>
    match readAsciiClass rest with
    | some (negated, rest) =>
      if negated && !s.scope.unicode then none
      else some ({ s with classes := members.push 0 :: outer }, rest)
    | none =>
      (openClass s.scope rest).map fun (inner, rest) =>
        ({ s with classes := inner :: s.classes }, rest)
  | '&' :: '&' :: rest | '-' :: '-' :: rest | '~' :: '~' :: rest =>
    some ({ s with classes := members.operand :: outer }, rest)
  | cs =>
    (readRange s.scope cs).map fun rest => ({ s with classes := members.push 0 :: outer }, rest)

/-- Repeats what stands in front of a sign. A question mark right behind the sign belongs to it. -/
def readRepetition (s : State) (rest : List Char) : Option (State × List Char) :=
  if s.repeatable then
    some ({ s with enclosure := s.enclosure.repeatLast },
      if rest.head? == some '?' then rest.drop 1 else rest)
  else none

/-- Reads on outside of classes. -/
def stepOutside (s : State) : List Char → Option (State × List Char)
  | [] => some (s, [])
  | '(' :: rest => readGroup s rest
  | ')' :: rest =>
    match s.outer with
    | [] => none
    | (scope, enclosure) :: outer =>
      some ({ s with scope, enclosure, outer }.push (s.enclosure.depth + 1), rest)
  | '|' :: rest => some ({ s with enclosure := s.enclosure.alternative, repeatable := false }, rest)
  | '?' :: rest | '*' :: rest | '+' :: rest => readRepetition s rest
  | '[' :: rest =>
    (openClass s.scope rest).map fun (members, rest) => ({ s with classes := [members] }, rest)
  | '.' :: rest => if s.scope.unicode then some (s.push 0, rest) else none
  | '\\' :: rest => (readEscape s.scope rest).map fun (_, rest) => (s.push 0, rest)
  | c :: rest => if c = '\x7b' then none else some (s.push 0, rest)

/-- Reads on. -/
def step (s : State) (cs : List Char) : Option (State × List Char) :=
  match s.scope.skip cs, s.classes with
  | [], _ => some (s, [])
  | cs, [] => stepOutside s cs
  | cs, members :: outer => stepInside s members outer cs

/-- Reads on to the end. Every step takes something off the text. -/
def read (s : State) (cs : List Char) : Option State :=
  if cs.isEmpty then some s
  else match step s cs with
    | none => none
    | some (s, rest) => if rest.length < cs.length then read s rest else none
termination_by cs.length

/-- The greatest depth that a pattern can have. -/
def maxDepth : Nat := 250

/-- Whether a text is a pattern. -/
def isValid (s : String) : Bool :=
  (read {} s.toList).any fun s =>
    s.outer.isEmpty && s.classes.isEmpty && decide (s.enclosure.depth ≤ maxDepth)

end IngressController.Logging.Pattern
