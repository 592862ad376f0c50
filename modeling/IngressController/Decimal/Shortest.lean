import IngressController.Text.Numeral

/-!
# The shortest decimal that reads back as a binary number

A finite binary64 number is `m * 2 ^ q`, and a decimal reads back as it exactly when it lies in
the interval that rounds to it, whose ends belong to it if `m` is even. Of the decimals with the
fewest digits in that interval the one nearest to the number is taken, and the greater one of two
that are equally near. It is written without an exponent: zeros fill the places up to the point.
-/

set_option autoImplicit false

namespace IngressController.Decimal

/-- A positive binary number `mantissa * 2 ^ exponent`, and whether the next smaller one is only
half as far away as the next larger one. -/
structure Binary where
  mantissa : Nat
  exponent : Int
  narrowBelow : Bool

/-- The decimal number `digits * 10 ^ exponent`. -/
structure Scientific where
  digits : Nat
  exponent : Int
  deriving DecidableEq, Repr

/-- The positive number that a binary64 word without its sign bit encodes; `none` for zero. -/
def Binary.ofBits? (bits : Nat) : Option Binary :=
  let biased : Nat := bits / Nat.pow 2 52 % Nat.pow 2 11
  let fraction : Nat := bits % Nat.pow 2 52
  if biased = 0 then
    if fraction = 0 then none else some ⟨fraction, -1074, false⟩
  else some ⟨Nat.pow 2 52 + fraction, (biased : Int) - 1075, decide (fraction = 0 ∧ biased > 1)⟩

/-- Four times a multiple of the number `2 ^ exponent`, as a fraction over a grid step: the
numerator of `quarters * 2 ^ (exponent - 2) / 10 ^ step`. -/
def scaled (quarters : Nat) (exponent step : Int) : Nat × Nat :=
  let twos := exponent - 2
  (quarters * Nat.pow 2 twos.toNat * Nat.pow 10 (-step).toNat,
    Nat.pow 2 (-twos).toNat * Nat.pow 10 step.toNat)

/-- A multiple of `10 ^ step` in the rounding interval of a number, the nearest one if there is
any; of two equally near ones the greater. -/
def onGrid? (b : Binary) (step : Int) : Option Nat :=
  let (value, unit) := scaled (4 * b.mantissa) b.exponent step
  let (low, _) := scaled (4 * b.mantissa - (if b.narrowBelow then 1 else 2)) b.exponent step
  let (high, _) := scaled (4 * b.mantissa + 2) b.exponent step
  let closed := b.mantissa % 2 == 0
  let inside (n : Nat) : Bool :=
    if closed then decide (low ≤ n * unit ∧ n * unit ≤ high)
    else decide (low < n * unit ∧ n * unit < high)
  let below := value / unit
  let above := below + 1
  match inside below && below != 0, inside above with
  | true, true =>
    if value - below * unit < above * unit - value then some below else some above
  | true, false => some below
  | false, true => some above
  | false, false => none

/-- The first grid, from the coarsest down, that has a point in the rounding interval. -/
def search (b : Binary) (step : Int) : Nat → Scientific
  | 0 => ⟨0, 0⟩
  | fuel + 1 =>
    match onGrid? b step with
    | some digits => ⟨digits, step⟩
    | none => search b (step - 1) fuel

/-- The shortest decimal that reads back as a number. The coarsest grid tried is above the
largest number, and the finest one below the smallest. -/
def shortest (b : Binary) : Scientific :=
  search b 310 (310 + 1100)

/-- A decimal without an exponent. -/
def Scientific.positional (s : Scientific) : String :=
  let digits := Text.decimalDigits s.digits
  if s.exponent ≥ 0 then String.ofList (digits ++ List.replicate s.exponent.toNat '0')
  else
    let places := (-s.exponent).toNat
    let padded := List.replicate (places + 1 - digits.length) '0' ++ digits
    let whole := padded.take (padded.length - places)
    String.ofList (whole ++ '.' :: padded.drop (padded.length - places))

/-- A nonnegative finite binary64 number as its shortest decimal. -/
def print (x : Float) : String :=
  match Binary.ofBits? (x.toBits.toNat % Nat.pow 2 63) with
  | some b => (shortest b).positional
  | none => "0"

end IngressController.Decimal
