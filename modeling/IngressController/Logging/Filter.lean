import IngressController.Logging.Condition
import IngressController.Text.Slice

/-!
# Filters of the log

A filter says for which parts of the controller how much is logged. It is written as directives with
commas between them. A directive is a threshold by itself, which is for everything, or a target and
perhaps a span and a condition in brackets, followed by an equals sign and a threshold. Without a
threshold everything is logged there.

A filter lists its directives from the most specific on, and of two for the same place only the
later one counts. Those that depend on a span or on a condition stand behind the others; one that
asks for no more than a field stands among the others, too.
-/

set_option autoImplicit false

namespace IngressController.Logging

/-- How much is logged. -/
inductive Threshold where
  | off
  | error
  | warn
  | info
  | debug
  | trace
  deriving DecidableEq, Repr

namespace Threshold

/-- Every threshold, in increasing order. -/
def all : List Threshold :=
  [off, error, warn, info, debug, trace]

/-- The name of a threshold. -/
def name : Threshold → String
  | off => "off"
  | error => "error"
  | warn => "warn"
  | info => "info"
  | debug => "debug"
  | trace => "trace"

/-- Reads the name of a threshold, in any case, or its number. -/
def ofText? (s : String) : Option Threshold :=
  match Text.readUnsigned? 64 s with
  | some n => all[n]?
  | none => all.find? fun t => t.name == s.toLower

end Threshold

/-- How much is logged at a place. -/
structure Directive where
  target : Option String := none
  span : Option String := none
  condition : Option Condition := none
  threshold : Threshold := .trace
  deriving DecidableEq

namespace Directive

/-! ### Reading -/

/-- A place in a directive: the bytes in front of it and the characters behind it. -/
structure Cursor where
  place : Nat
  rest : List Char

/-- The place behind the next character. -/
def Cursor.next (c : Cursor) : Cursor where
  place := c.place + Text.byteCount (c.rest.take 1)
  rest := c.rest.drop 1

/-- The next place in front of a character that ends something, or the end of the directive. -/
def Cursor.until (c : Cursor) (ends : Char → Bool) : Cursor where
  place := c.place + Text.byteCount (c.rest.takeWhile (!ends ·))
  rest := c.rest.dropWhile (!ends ·)

/-- Whether a directive can begin with a character, brackets aside. -/
def isTargetStart (c : Char) : Bool :=
  c == '-' || c == ':' || c == '_' || Text.isAlphanumeric c

/-- Reads a threshold by itself, or a target. -/
def plain (s : String) : Directive :=
  match Threshold.ofText? s with
  | some threshold => { threshold }
  | none => { target := some s }

/-- Reads on where there may be a threshold. -/
def readThreshold? (s : String) (d : Directive) (c : Cursor) : Option Directive :=
  match c.rest with
  | [] => some d
  | '=' :: _ => do
    let text ← Text.sliceFrom? s c.next.place
    if text = "" then some d
    else (Threshold.ofText? text).map fun threshold => { d with threshold }
  | _ => none

/-- Reads on behind the brace that opens a condition. -/
def readCondition? (s : String) (d : Directive) (c : Cursor) : Option Directive := do
  let stop := c.until (· == '\x7d')
  let text ← Text.slice? s c.place stop.place
  let condition ← if text = "" then none else Condition.parse? text
  match stop.next.rest with
  | ']' :: _ => readThreshold? s { d with condition := some condition } stop.next.next
  | _ => none

/-- Reads on behind the bracket that opens a span. -/
def readSpan? (s : String) (d : Directive) (c : Cursor) : Option Directive := do
  let stop := c.until fun c => c == ']' || c == '\x7b'
  let span ← Text.slice? s c.place stop.place
  match stop.rest with
  | ']' :: _ => readThreshold? s { d with span := some span } stop.next
  | '\x7b' :: _ =>
    readCondition? s { d with span := if span = "" then none else some span } stop.next
  | _ => none

/-- Reads a directive. Blanks around it do not count as to where its parts end, but the parts are
cut out of the whole text, so that blanks in front become part of the target. -/
def parse? (s : String) : Option Directive :=
  let start : Cursor := { place := 0, rest := Text.trimChars s.toList }
  match start.rest with
  | [] => none
  | '[' :: _ => readSpan? s {} start.next
  | first :: _ =>
    if !isTargetStart first then none
    else
      let stop := start.until fun c => c == '=' || c == '['
      match stop.rest with
      | [] => some (plain s)
      | next :: _ => do
        let d : Directive := { target := some (← Text.slice? s 0 stop.place) }
        if next = '=' then readThreshold? s d stop else readSpan? s d stop.next

/-! ### Writing -/

/-- What a directive has in brackets. -/
def bracketText (d : Directive) : String :=
  match d.span, d.condition with
  | none, none => ""
  | span, none => "[" ++ span.getD "" ++ "]"
  | span, some condition => "[" ++ span.getD "" ++ "\x7b" ++ condition.text ++ "\x7d]"

/-- Whether a directive depends on a span or on a condition. -/
def isDynamic (d : Directive) : Bool :=
  d.span.isSome || d.condition.isSome

/-- A directive as it is written. -/
def text (d : Directive) : String :=
  let place := d.target.getD "" ++ d.bracketText
  if d.target.isSome || d.isDynamic then place ++ "=" ++ d.threshold.name else d.threshold.name

/-! ### Order -/

/-- Compares two values, where no value is less than any. -/
def orderOptional {α : Type} (order : α → α → Ordering) : Option α → Option α → Ordering
  | none, none => .eq
  | none, some _ => .lt
  | some _, none => .gt
  | some a, some b => order a b

/-- How specific directives are: their targets count by their sizes, and then whether they have a
span, and whether they have a condition. What they say decides between equally specific ones. -/
def order (d e : Directive) : Ordering :=
  let size (target : Option String) : Option Nat := target.map String.utf8ByteSize
  (orderOptional compare (size d.target) (size e.target)).then <|
    (compare d.span.isSome e.span.isSome).then <|
    (compare d.condition.isSome e.condition.isSome).then <|
    (orderOptional compare d.target e.target).then <|
    (orderOptional compare d.span e.span).then <|
    orderOptional Condition.order d.condition e.condition

/-- Adds a directive to a list, in place of one for the same place. -/
def insert (d : Directive) : List Directive → List Directive
  | [] => [d]
  | e :: rest =>
    match d.order e with
    | .gt => d :: e :: rest
    | .eq => d :: rest
    | .lt => e :: insert d rest

/-- The directives in order, the most specific one first. -/
def sort (ds : List Directive) : List Directive :=
  ds.foldl (fun sorted d => insert d sorted) []

/-- Whether a directive that depends on a condition stands among the others, too. -/
def asksForField (d : Directive) : Bool :=
  d.span.isNone && d.condition.any (·.expected.isNone)

end Directive

/-- A filter. -/
structure Filter where
  directives : List Directive
  deriving DecidableEq

namespace Filter

/-- The filter with some directives. -/
def ofDirectives (ds : List Directive) : Filter where
  directives :=
    let dynamic := ds.filter Directive.isDynamic
    Directive.sort (ds.filter (!·.isDynamic) ++ dynamic.filter Directive.asksForField) ++
      Directive.sort dynamic

/-- Reads a filter; empty parts between commas are left out. -/
def parse? (s : String) : Option Filter :=
  (((Text.splitOn ',' s).filter (· ≠ "")).mapM Directive.parse?).map ofDirectives

/-- A filter as it is written. -/
def text (f : Filter) : String :=
  ",".intercalate (f.directives.map Directive.text)

end Filter

end IngressController.Logging
