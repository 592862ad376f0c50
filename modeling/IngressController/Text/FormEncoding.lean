import IngressController.Text.Numeral

/-!
# Form encoding

The values of a query are written in the form encoding: ASCII letters, digits and the four marks
star, hyphen, dot and underscore stand for themselves, a space becomes a plus sign, and every other
character is written by the bytes of its UTF-8 form, each as a percent sign and two hexadecimal
digits in capitals. Reading also takes what stands for itself without need, and what is not UTF-8
reads as nothing.
-/

set_option autoImplicit false

namespace IngressController.Text

/-- A character that stands for itself in the form encoding. -/
def isFormKept (c : Char) : Bool :=
  c.isAlphanum || c == '*' || c == '-' || c == '.' || c == '_'

/-- The hexadecimal digit in capitals for a number below sixteen. -/
def hexCapital (n : Nat) : Char :=
  Char.ofNat (if n < 10 then '0'.toNat + n else 'A'.toNat + (n - 10))

/-- A byte as a percent sign and two digits. -/
def percentByte (b : UInt8) : List Char :=
  ['%', hexCapital (b.toNat / 16), hexCapital (b.toNat % 16)]

/-- The form encoding of one character. -/
def formEncodeChar (c : Char) : List Char :=
  if isFormKept c then [c]
  else if c = ' ' then ['+']
  else (String.utf8EncodeChar c).flatMap percentByte

/-- The form encoding of a text. -/
def formEncode (s : String) : String :=
  String.ofList (s.toList.flatMap formEncodeChar)

/-- The bytes that characters in form encoding stand for. -/
def formBytes : List Char → List UInt8
  | '%' :: first :: second :: rest =>
    match digitValue? 16 first, digitValue? 16 second with
    | some high, some low => UInt8.ofNat (high * 16 + low) :: formBytes rest
    | _, _ => String.utf8EncodeChar '%' ++ formBytes (first :: second :: rest)
  | '+' :: rest => String.utf8EncodeChar ' ' ++ formBytes rest
  | c :: rest => String.utf8EncodeChar c ++ formBytes rest
  | [] => []

/-- The text that a text in form encoding stands for. -/
def formDecode (s : String) : String :=
  (String.fromUTF8? ⟨(formBytes s.toList).toArray⟩).getD ""

end IngressController.Text
