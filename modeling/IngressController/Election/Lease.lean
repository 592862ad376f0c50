import IngressController.Api.Location
import IngressController.Object.Metadata
import IngressController.Text.Instant

/-!
# Leases

The pods of the controller elect their leader by a lease, which one of them holds for some time from
when it was last renewed. A free lease has no holder. The end of a lease is counted in the time of
day, as nanoseconds since the beginning of 1970.

A lease is changed by merge patches: it is taken, renewed or freed. Freeing leaves the duration of
the lease as it is.
-/

set_option autoImplicit false

namespace IngressController.Election

/-- A lease. -/
structure Lease where
  holder : Option String := none
  /-- The seconds that the lease is valid from when it was renewed. -/
  duration : Option Int := none
  /-- When the lease was renewed. -/
  renewed : Option Int := none
  /-- When the lease was taken. -/
  acquired : Option Int := none
  deriving DecidableEq

namespace Lease

/-- When a lease ends. One that does not say how long it is valid, and from when, has ended. -/
def end? (l : Lease) : Option Int := do
  return (← l.renewed) + (← l.duration) * Text.nanosPerSecond

/-- Whether a lease has not ended at a time of day. -/
def isValid (l : Lease) (time : Int) : Bool :=
  l.end?.any fun ending => decide (time < ending)

/-- Whether the end of a lease can be counted: its duration must not be negative. -/
def isCountable (l : Lease) : Bool :=
  l.renewed.isNone || l.duration.all fun seconds => decide (0 ≤ seconds)

/-- Whether a lease has neither a holder nor traces of one. -/
def isUntouched (l : Lease) : Bool :=
  l.holder.isNone && l.acquired.isNone && l.renewed.isNone

/-- The holder, empty if there is none. -/
def holderText (l : Lease) : String :=
  l.holder.getD ""

/-! ### Reading -/

open Object in
/-- Reads what a lease says about its holder and its end. -/
def ofSpec? (spec : Json) : Option Lease := do
  let _ ← spec.obj?
  let instant? (json : Json) : Option Int := json.str?.bind Text.readInstant?
  let _ ← optional spec "leaseTransitions" int32
  let _ ← optional spec "preferredHolder" Json.str?
  let _ ← optional spec "strategy" Json.str?
  return {
    holder := ← optional spec "holderIdentity" Json.str?
    duration := ← optional spec "leaseDurationSeconds" int32
    renewed := ← optional spec "renewTime" instant?
    acquired := ← optional spec "acquireTime" instant? }

open Object in
/-- Reads a lease. -/
def ofJson? (json : Json) : Option Lease := do
  let _ ← Metadata.ofObject? "coordination.k8s.io/v1" "Lease" json
  withDefault json "spec" {} ofSpec?

/-- The holder that an object names as that of a lease, whether or not it can be read as one. -/
def holderOf? (object : Json) : Option String :=
  ((object.member? "spec").bind (·.member? "holderIdentity")).bind Json.str?

/-! ### Writing -/

/-- The lease that is held for good, that has ended long ago, or that is free. -/
def given (namespaceName name : String) (holder : Option String) (expired : Bool) : Json :=
  let renewed := if expired then "2000-01-01T00:00:00Z" else "2100-01-01T00:00:00Z"
  let spec := match holder with
    | some holder => [("holderIdentity", .str holder), ("leaseDurationSeconds", .int 30),
        ("renewTime", .str renewed)]
    | none => []
  .obj [("metadata", .obj [("namespace", .str namespaceName), ("name", .str name)]),
    ("spec", .obj spec)]

/-- The patch that renews a lease at a time of day for some seconds. -/
def renewal (time : String) (seconds : Nat) : Json :=
  .obj [("spec", .obj [("renewTime", .str time), ("leaseDurationSeconds", .int seconds)])]

/-- The patch that takes a lease at a time of day for some seconds. -/
def taking (holder time : String) (seconds : Nat) : Json :=
  .obj [("spec", .obj [("holderIdentity", .str holder), ("acquireTime", .str time),
    ("renewTime", .str time), ("leaseDurationSeconds", .int seconds)])]

/-- The patch that frees a lease. -/
def freeing : Json :=
  .obj [("spec", .obj [("holderIdentity", .null), ("acquireTime", .null), ("renewTime", .null)])]

end Lease

/-- How a lease is used in an election. -/
structure Config where
  name : String
  namespaceName : String
  /-- The seconds that a lease is valid without being renewed. -/
  duration : Nat := 30
  /-- The seconds before its end in which the holder renews it. -/
  grace : Nat := 15
  deriving DecidableEq

namespace Config

/-- The path of the leases among which the lease is. -/
def list (c : Config) : String :=
  Api.listPath Api.coordinationRoot c.namespaceName "leases"

/-- The place of the lease. -/
def location (c : Config) : Except Cluster.Flaw Api.Location :=
  Api.Location.ofObject c.list c.name

/-- The place where the lease is created. -/
def listLocation (c : Config) : Except Cluster.Flaw Api.Location :=
  Api.Location.withParameters c.list []

/-- The seconds for which a lease is taken. -/
def validFor (c : Config) : Nat :=
  max c.duration 1

/-- The milliseconds before its end in which a lease is renewed: never so many that it would have to
be renewed in the moment in which it is taken. -/
def renewBefore (c : Config) : Nat :=
  min (c.grace * 1000) (c.validFor * 1000 - 1)

end Config

end IngressController.Election
