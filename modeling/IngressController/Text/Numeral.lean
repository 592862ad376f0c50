/-!
# Decimal numerals

Numbers are written in decimal without leading zeros, or padded with zeros to a width. They are
read strictly: an optional sign, then at least one ASCII digit and nothing else, and the value has
to fit the range it is read for. Leading zeros are accepted when reading.
-/

set_option autoImplicit false

namespace IngressController.Text

/-! ### Writing -/

/-- The digit for a number below ten. -/
def digitChar (n : Nat) : Char :=
  Char.ofNat ('0'.toNat + n)

/-- The decimal digits of a number, the most significant first. -/
def decimalDigits (n : Nat) : List Char :=
  if n < 10 then [digitChar n] else decimalDigits (n / 10) ++ [digitChar (n % 10)]
termination_by n

/-- A number in decimal. -/
def decimal (n : Nat) : String :=
  String.ofList (decimalDigits n)

/-- A number in decimal with as many zeros in front as it takes to fill `width` places. -/
def zeroPadded (width n : Nat) : String :=
  let digits := decimalDigits n
  String.ofList (List.replicate (width - digits.length) '0' ++ digits)

/-- An integer in decimal, with a sign if it is negative. -/
def signedDecimal (i : Int) : String :=
  if i < 0 then "-" ++ decimal i.natAbs else decimal i.natAbs

/-! ### Reading -/

/-- The value of an ASCII digit in a base of at most sixteen. -/
def digitValue? (base : Nat) (c : Char) : Option Nat :=
  let value? : Option Nat :=
    if '0' ≤ c ∧ c ≤ '9' then some (c.toNat - '0'.toNat)
    else if 'a' ≤ c ∧ c ≤ 'f' then some (c.toNat - 'a'.toNat + 10)
    else if 'A' ≤ c ∧ c ≤ 'F' then some (c.toNat - 'A'.toNat + 10)
    else none
  value?.filter (· < base)

/-- Reads on with `acc` as the value of the digits before. -/
def digitsValue? (acc : Nat) : List Char → Option Nat
  | [] => some acc
  | c :: rest => (digitValue? 10 c).bind fun d => digitsValue? (acc * 10 + d) rest

/-- The value of a non-empty list of decimal digits. -/
def readDigits? : List Char → Option Nat
  | [] => none
  | c :: rest => digitsValue? 0 (c :: rest)

/-- Reads an unsigned number of `bits` bits; a plus sign may stand in front. -/
def readUnsigned? (bits : Nat) (s : String) : Option Nat :=
  let digits := match s.toList with
    | '+' :: rest => rest
    | cs => cs
  (readDigits? digits).filter (· < Nat.pow 2 bits)

/-- Reads a signed number of `bits` bits in two's complement range; a sign may stand in front. -/
def readSigned? (bits : Nat) (s : String) : Option Int :=
  let value? : Option Int := match s.toList with
    | '-' :: rest => (readDigits? rest).map fun n => -(n : Int)
    | '+' :: rest => (readDigits? rest).map Int.ofNat
    | cs => (readDigits? cs).map Int.ofNat
  value?.filter fun i => -Int.pow 2 (bits - 1) ≤ i ∧ i < Int.pow 2 (bits - 1)

end IngressController.Text
