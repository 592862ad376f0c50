import IngressController.Address.Reader
import IngressController.Address.Printer
import IngressController.Text.Blank
import IngressController.Text.Map

/-!
# Lists of addresses and networks

An entry of an allow list is an address or a network. Entries are read with blanks around them
ignored and are kept in their canonical forms, networks truncated, so that two entries with the
same meaning become one. What is neither an address nor a network is kept aside.
-/

set_option autoImplicit false

namespace IngressController.AllowList

open Address

/-- One entry of an allow list. -/
inductive Entry where
  | network (net : Network)
  | address (ip : Ip)
  deriving DecidableEq

namespace Entry

/-- Whether an entry admits an address. -/
def Admits (entry : Entry) (ip : Ip) : Prop :=
  match entry with
  | network net => net.Contains ip
  | address own => own = ip

instance (entry : Entry) (ip : Ip) : Decidable (entry.Admits ip) :=
  match entry with
  | network net => inferInstanceAs (Decidable (net.Contains ip))
  | address own => inferInstanceAs (Decidable (own = ip))

/-- The entry that a text without blanks around it denotes; networks come truncated. -/
def parse? (text : String) : Option Entry :=
  match Network.parse? text with
  | some net => some (network net.truncate)
  | none => (Ip.parse? text).map address

/-- The canonical form of an entry. -/
def print : Entry → String
  | network net => net.print
  | address ip => ip.print

end Entry

/-- What a list of texts holds. -/
structure Parsed where
  /-- The canonical forms of the networks. -/
  networks : TextSet := ∅
  /-- The canonical forms of the addresses. -/
  addresses : TextSet := ∅
  /-- The texts, without blanks around them, that are neither, in order. -/
  invalid : List String := []

namespace Parsed

/-- Adds one text; a blank one adds nothing. -/
def add (p : Parsed) (text : String) : Parsed :=
  let text := Text.trim text
  if text = "" then p
  else match Entry.parse? text with
    | some (.network net) => { p with networks := p.networks.add net.print }
    | some (.address ip) => { p with addresses := p.addresses.add ip.print }
    | none => { p with invalid := p.invalid ++ [text] }

/-- What a list of texts holds. -/
def ofTexts (texts : List String) : Parsed :=
  texts.foldl add {}

/-- Whether any text was an address or a network. -/
def hasValid (p : Parsed) : Bool :=
  !p.networks.entries.isEmpty || !p.addresses.entries.isEmpty

/-- The canonical forms of all entries in increasing order. -/
def sorted (p : Parsed) : List String :=
  (p.networks.union p.addresses).keys

end Parsed

end IngressController.AllowList
