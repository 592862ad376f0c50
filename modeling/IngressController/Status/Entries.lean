import IngressController.Address.Reader
import IngressController.Object.Ingress

/-!
# Lists of load balancer entries

The addresses of the controller become entries with an IP or, if they are none, with a host name.
Lists are ordered by host name and then by IP, with a missing one counting as empty, and two lists
are compared entry by entry in the same sense, whatever the ports.
-/

set_option autoImplicit false

namespace IngressController.Object.Entry

/-- The IP, empty if missing. -/
def ipText (e : Entry) : String :=
  e.ip.getD ""

/-- The host name, empty if missing. -/
def hostText (e : Entry) : String :=
  e.hostname.getD ""

/-- The entry for an address. -/
def ofAddress (address : String) : Entry :=
  if (Address.Ip.parse? address).isSome then { ip := some address }
  else { hostname := some address }

/-- Whether an entry comes before another by IP, or has the same one. -/
def leByIp (a b : Entry) : Bool :=
  decide (a.ipText ≤ b.ipText)

/-- Whether an entry comes before another by host name and then by IP, or has the same ones. -/
def le (a b : Entry) : Bool :=
  decide (a.hostText < b.hostText ∨ a.hostText = b.hostText ∧ a.ipText ≤ b.ipText)

/-- Whether two entries have the same IP and host name. -/
def sameAs (a b : Entry) : Bool :=
  a.ipText == b.ipText && a.hostText == b.hostText

/-- What an entry shows in a log line: its IP or else its host name. -/
def shown (e : Entry) : String :=
  (e.ip <|> e.hostname).getD ""

end IngressController.Object.Entry

namespace IngressController.Status

open Object

/-- The entries for a list of addresses, ordered by IP. -/
def entriesOf (addresses : List String) : List Entry :=
  (addresses.map Entry.ofAddress).mergeSort Entry.leByIp

/-- Entries ordered by host name and then by IP; entries with the same ones keep their order. -/
def sortEntries (entries : List Entry) : List Entry :=
  entries.mergeSort Entry.le

/-- Whether two lists agree position by position. -/
def sameEntries : List Entry → List Entry → Bool
  | [], [] => true
  | a :: as, b :: bs => a.sameAs b && sameEntries as bs
  | _, _ => false

/-- Entries as a log line shows them. -/
def showEntries (entries : List Entry) : String :=
  "[" ++ " ".intercalate (entries.map Entry.shown) ++ "]"

end IngressController.Status
