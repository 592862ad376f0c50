import IngressController.Decimal.Shortest

/-!
# Values of decimal texts

A decimal text stands for the nearest binary64 number. It has a sign, digits with a point among
them, and an exponent; all but one digit can be left out. Infinity and the value that is not a
number are written by their names.

A number is kept as its sign and the word of its magnitude, so that the order of the numbers is that
of the words.
-/

set_option autoImplicit false

namespace IngressController.Decimal

/-- A binary64 value. -/
inductive Value where
  /-- A number, infinity included, by the word of its magnitude. -/
  | number (negative : Bool) (magnitude : Nat)
  | notANumber
  deriving DecidableEq

namespace Value

/-- The word of infinity. -/
def infinity : Nat := 0x7FF * Nat.pow 2 52

/-- The word of the number nearest to `digits * 10 ^ exponent`. A number above all binary64 numbers
is as good as infinity, and one below them all as good as zero. -/
def nearest (digits : Nat) (exponent : Int) : Nat :=
  let places : Int := (Text.decimalDigits digits).length + exponent
  if digits = 0 ∨ places < -330 then 0
  else if 310 < places then infinity
  else (Float.ofScientific digits (decide (exponent < 0)) exponent.natAbs).toBits.toNat

/-- Reads the exponent that may follow the digits. -/
def readExponent? : List Char → Option Int
  | [] => some 0
  | mark :: rest =>
    if mark = 'e' ∨ mark = 'E' then
      match rest with
      | '-' :: digits => (Text.readDigits? digits).map fun n => -(n : Int)
      | '+' :: digits => (Text.readDigits? digits).map Int.ofNat
      | digits => (Text.readDigits? digits).map Int.ofNat
    else none

/-- Reads the word of a number without a sign. -/
def readMagnitude? (cs : List Char) : Option Nat := do
  let whole := cs.takeWhile Char.isDigit
  let rest := cs.dropWhile Char.isDigit
  let fraction := match rest with
    | '.' :: rest => rest.takeWhile Char.isDigit
    | _ => []
  let rest := match rest with
    | '.' :: rest => rest.dropWhile Char.isDigit
    | rest => rest
  let digits ← Text.readDigits? (whole ++ fraction)
  let exponent ← readExponent? rest
  return nearest digits (exponent - fraction.length)

/-- The value with a name, in any case of letters. -/
def ofName? (name : String) (negative : Bool) : Option Value :=
  match name.toLower with
  | "inf" | "infinity" => some (number negative infinity)
  | "nan" => some notANumber
  | _ => none

/-- Reads a text behind its sign. -/
def readUnsigned? (negative : Bool) (cs : List Char) : Option Value :=
  match readMagnitude? cs with
  | some magnitude => some (number negative magnitude)
  | none => ofName? (String.ofList cs) negative

/-- Reads a text. -/
def read? (s : String) : Option Value :=
  match s.toList with
  | '-' :: rest => readUnsigned? true rest
  | '+' :: rest => readUnsigned? false rest
  | cs => readUnsigned? false cs

/-- The place of a number among all numbers; the two zeros have the same one. -/
def rank : Value → Int
  | number negative magnitude => if negative then -magnitude else magnitude
  | notANumber => 0

/-- A value as it is written: the shortest decimal that stands for it, without an exponent. -/
def text : Value → String
  | number negative magnitude =>
    let digits :=
      if magnitude = infinity then "inf"
      else match Binary.ofBits? magnitude with
        | some b => (shortest b).positional
        | none => "0"
    if negative then "-" ++ digits else digits
  | notANumber => "NaN"

end Value

end IngressController.Decimal
