import IngressController.Decimal.Value
import IngressController.Logging.Pattern
import IngressController.Text.Split

/-!
# Conditions on fields

A directive of a filter can ask for a field, and for a value that the field has. The value is a
truth value or a number if it reads as one, and a pattern otherwise.

Conditions are ordered, those that ask for a value behind those that do not.
-/

set_option autoImplicit false

namespace IngressController.Logging

/-- What a condition asks a field to be. -/
inductive Expected where
  | truth (value : Bool)
  | real (value : Decimal.Value)
  | unsigned (value : Nat)
  | signed (value : Int)
  | pattern (text : String)
  deriving DecidableEq

namespace Expected

/-- Reads a value: numbers without a fraction are read exactly as far as they fit 64 bits. -/
def parse? (s : String) : Option Expected :=
  match s with
  | "true" => some (truth true)
  | "false" => some (truth false)
  | _ =>
    match Text.readUnsigned? 64 s, Text.readSigned? 64 s, Decimal.Value.read? s with
    | some n, _, _ => some (unsigned n)
    | none, some i, _ => some (signed i)
    | none, none, some value => some (real value)
    | none, none, none => if Pattern.isValid s then some (pattern s) else none

/-- A value as it is written. -/
def text : Expected → String
  | truth value => if value then "true" else "false"
  | real value => value.text
  | unsigned value => Text.decimal value
  | signed value => Text.signedDecimal value
  | pattern text => text

/-- The place of the form of a value among all forms. -/
def form : Expected → Nat
  | truth _ => 0
  | real (.number ..) => 1
  | real .notANumber => 2
  | unsigned _ => 3
  | signed _ => 4
  | pattern _ => 5

/-- The place of a value among those of its form, as far as it is one of numbers. -/
def rank : Expected → Int
  | truth value => value.toInt
  | real value => value.rank
  | unsigned value => value
  | signed value => value
  | pattern _ => 0

/-- The order of values: by their forms, and within a form by number or by text. -/
def order (e f : Expected) : Ordering :=
  (compare e.form f.form).then <| (compare e.rank f.rank).then <|
    match e, f with
    | pattern s, pattern t => compare s t
    | _, _ => .eq

end Expected

/-- A condition on a field. -/
structure Condition where
  field : String
  expected : Option Expected
  deriving DecidableEq

namespace Condition

/-- Reads a condition: a field, and behind an equals sign a value. What follows a second equals sign
does not count. -/
def parse? (s : String) : Option Condition :=
  match Text.splitOn '=' s with
  | field :: value :: _ =>
    (Expected.parse? value).map fun expected => { field, expected := some expected }
  | _ => some { field := s, expected := none }

/-- A condition as it is written. -/
def text (c : Condition) : String :=
  c.field ++
    match c.expected with
    | some expected => "=" ++ expected.text
    | none => ""

/-- The order of conditions: those without a value first, and then by field and value. -/
def order (c d : Condition) : Ordering :=
  (compare c.expected.isSome d.expected.isSome).then <| (compare c.field d.field).then <|
    match c.expected, d.expected with
    | some e, some f => e.order f
    | _, _ => .eq

end Condition

end IngressController.Logging
