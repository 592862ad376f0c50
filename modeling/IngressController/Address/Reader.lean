import IngressController.Address.Basic
import IngressController.Text.Numeral

/-!
# Reading addresses and networks

An IPv4 address is four decimal octets with points between them. An IPv6 address is eight
hexadecimal groups with colons between them; one run of zero groups may be left out and written
`::`, and the last two groups may be written as an IPv4 address. A network is an address, a slash
and the number of its leading bits.

Single addresses and the addresses of networks are read by two grammars that differ in two
points: whether octets may start with zeros, and whether `::` may stand for no group at all.
Every reader returns what follows the part it has read.
-/

set_option autoImplicit false

namespace IngressController.Address

/-- Where the two ways of writing an address differ. -/
structure Grammar where
  /-- Whether an octet of more than one digit may start with a zero. -/
  paddedOctets : Bool
  /-- Whether `::` may stand between groups of which none is missing. -/
  emptyGap : Bool

/-- The grammar of a single address. -/
def Grammar.address : Grammar := ⟨false, false⟩

/-- The grammar of the address in front of the slash of a network. -/
def Grammar.network : Grammar := ⟨true, true⟩

/-! ### Numbers -/

/-- The values of the digits that a text starts with, and the rest of the text. -/
def takeDigits (base : Nat) : List Char → List Nat × List Char
  | [] => ([], [])
  | c :: rest =>
    match Text.digitValue? base c with
    | some d => let (ds, after) := takeDigits base rest; (d :: ds, after)
    | none => ([], c :: rest)

/-- Reads a number of at most `maxDigits` digits and below `limit`. -/
def readNumber (base maxDigits limit : Nat) (padded : Bool) (cs : List Char) :
    Option (Nat × List Char) :=
  let (digits, rest) := takeDigits base cs
  let value := digits.foldl (fun acc d => acc * base + d) 0
  if digits.isEmpty || digits.length > maxDigits then none
  else if !padded && digits.length > 1 && digits.head? == some 0 then none
  else if value < limit then some (value, rest)
  else none

/-! ### Addresses -/

/-- Reads `count` octets; each but the first has a point in front. -/
def readOctets (g : Grammar) (first : Bool) : Nat → List Char → Option (List Nat × List Char)
  | 0, cs => some ([], cs)
  | count + 1, cs => do
    let cs ← if first then some cs else match cs with
      | '.' :: rest => some rest
      | _ => none
    let (octet, cs) ← readNumber 10 3 256 g.paddedOctets cs
    let (octets, cs) ← readOctets g false count cs
    some (octet :: octets, cs)

/-- The number with the given digits in a base. -/
def ofDigits (base : Nat) (digits : List Nat) : Nat :=
  digits.foldl (fun acc d => acc * base + d) 0

/-- The IPv4 address of four octets. -/
def Ip.ofOctets (octets : List Nat) : Ip where
  family := .v4
  value := Fin.ofNat (Nat.pow 2 32) (ofDigits 256 octets)

/-- The IPv6 address of eight groups. -/
def Ip.ofGroups (groups : List Nat) : Ip where
  family := .v6
  value := Fin.ofNat (Nat.pow 2 128) (ofDigits 65536 groups)

/-- Reads the colon in front of every part of an IPv6 address but its first. -/
def readColon (first : Bool) (cs : List Char) : Option (List Char) :=
  if first then some cs else match cs with
    | ':' :: rest => some rest
    | _ => none

/-- The groups that a text starts with, whether the last two of them were written as an IPv4
address, and the rest of the text. -/
def readGroups (g : Grammar) (first : Bool) :
    Nat → List Char → List Nat × Bool × List Char
  | 0, cs => ([], false, cs)
  | limit + 1, cs =>
    let embedded? : Option (List Nat × List Char) :=
      if limit = 0 then none else (readColon first cs).bind (readOctets g true 4)
    match embedded? with
    | some (octets, rest) =>
      let pair := ofDigits 256 octets
      ([pair / 65536, pair % 65536], true, rest)
    | none =>
      match (readColon first cs).bind (readNumber 16 4 65536 true) with
      | some (group, rest) =>
        let (groups, embedded, rest) := readGroups g false limit rest
        (group :: groups, embedded, rest)
      | none => ([], false, cs)

/-- Reads an IPv4 address. -/
def readV4 (g : Grammar) (cs : List Char) : Option (Ip × List Char) :=
  (readOctets g true 4 cs).map fun (octets, rest) => (Ip.ofOctets octets, rest)

/-- Reads an IPv6 address. -/
def readV6 (g : Grammar) (cs : List Char) : Option (Ip × List Char) :=
  let (front, embedded, rest) := readGroups g true 8 cs
  if front.length = 8 then some (Ip.ofGroups front, rest)
  else if embedded then none
  else match rest with
    | ':' :: ':' :: rest =>
      let room := 8 - front.length - (if g.emptyGap then 0 else 1)
      let (back, _, rest) := readGroups g true room rest
      let zeros := List.replicate (8 - front.length - back.length) 0
      some (Ip.ofGroups (front ++ zeros ++ back), rest)
    | _ => none

/-- The address that a whole text denotes. -/
def Ip.parse? (s : String) : Option Ip :=
  match (readV4 .address s.toList).or (readV6 .address s.toList) with
  | some (ip, []) => some ip
  | _ => none

/-! ### Networks -/

/-- Reads the slash and the number of leading bits behind the address of a network. -/
def readLength (ip : Ip) (maxDigits : Nat) (cs : List Char) : Option (Network × List Char) :=
  match cs with
  | '/' :: rest =>
    match readNumber 10 maxDigits (ip.family.width + 1) true rest with
    | some (length, rest) =>
      if h : length ≤ ip.family.width then some (⟨ip, length, h⟩, rest) else none
    | none => none
  | _ => none

/-- Reads an IPv4 network; its length has at most two digits. -/
def readNetworkV4 (cs : List Char) : Option (Network × List Char) :=
  (readV4 .network cs).bind fun (ip, rest) => readLength ip 2 rest

/-- Reads an IPv6 network; its length has at most three digits. -/
def readNetworkV6 (cs : List Char) : Option (Network × List Char) :=
  (readV6 .network cs).bind fun (ip, rest) => readLength ip 3 rest

/-- The network that a whole text denotes. -/
def Network.parse? (s : String) : Option Network :=
  match (readNetworkV4 s.toList).or (readNetworkV6 s.toList) with
  | some (net, []) => some net
  | _ => none

end IngressController.Address
