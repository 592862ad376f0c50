import IngressController.Address.Basic
import IngressController.Text.Numeral

/-!
# Canonical forms of addresses and networks

An IPv4 address is written as four octets without leading zeros. An IPv6 address is written as
groups in lower case without leading zeros; its longest run of at least two zero groups, the first
of equally long ones, becomes `::`; and an address that stands for an IPv4 address is written
`::ffff:` with the IPv4 address behind it. A network is its base address, a slash and its length.
-/

set_option autoImplicit false

namespace IngressController.Address

/-- The digits of a number in a base, as many as asked for, the most significant first. -/
def toDigits (base : Nat) : Nat → Nat → List Nat
  | 0, _ => []
  | count + 1, n => n / Nat.pow base count % base :: toDigits base count n

/-- The four octets of an IPv4 address. -/
def octets (value : Nat) : List Nat :=
  toDigits 256 4 value

/-- The eight groups of an IPv6 address. -/
def groups (value : Nat) : List Nat :=
  toDigits 65536 8 value

/-- An IPv4 address in its canonical form. -/
def printV4 (value : Nat) : String :=
  ".".intercalate ((octets value).map Text.decimal)

/-- A hexadecimal digit in lower case. -/
def hexDigitChar (n : Nat) : Char :=
  if n < 10 then Text.digitChar n else Char.ofNat ('a'.toNat + (n - 10))

/-- A group without leading zeros; the group zero is `0`. -/
def printGroup (group : Nat) : String :=
  match (toDigits 16 4 group).dropWhile (· == 0) with
  | [] => "0"
  | digits => String.ofList (digits.map hexDigitChar)

/-- Groups with colons between them. -/
def printGroups (gs : List Nat) : String :=
  ":".intercalate (gs.map printGroup)

/-- A run of consecutive groups. -/
structure Run where
  start : Nat
  length : Nat
  deriving DecidableEq

/-- The longest run of zeros from position `pos` on, given the longest one so far and the one that
reaches up to this position. -/
def longestZeros (best current : Run) (pos : Nat) : List Nat → Run
  | [] => best
  | g :: rest =>
    if g = 0 then
      let current : Run :=
        if current.length = 0 then ⟨pos, 1⟩ else ⟨current.start, current.length + 1⟩
      let best := if current.length > best.length then current else best
      longestZeros best current (pos + 1) rest
    else longestZeros best ⟨0, 0⟩ (pos + 1) rest

/-- Whether an IPv6 address stands for the IPv4 address in its last 32 bits. -/
def isMapped (value : Nat) : Bool :=
  value / Nat.pow 2 32 == 0xFFFF

/-- An IPv6 address in its canonical form. -/
def printV6 (value : Nat) : String :=
  if isMapped value then "::ffff:" ++ printV4 (value % Nat.pow 2 32)
  else
    let gs := groups value
    let run := longestZeros ⟨0, 0⟩ ⟨0, 0⟩ 0 gs
    if run.length > 1 then
      printGroups (gs.take run.start) ++ "::" ++ printGroups (gs.drop (run.start + run.length))
    else printGroups gs

/-- The canonical form of an address. -/
def Ip.print (ip : Ip) : String :=
  match ip.family with
  | .v4 => printV4 ip.value.val
  | .v6 => printV6 ip.value.val

/-- The canonical form of a network. -/
def Network.print (net : Network) : String :=
  net.base.print ++ "/" ++ Text.decimal net.length

end IngressController.Address
