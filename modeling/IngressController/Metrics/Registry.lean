import IngressController.Journal
import IngressController.Text.Map

/-!
# The metrics of the controller

A registry holds the counters, gauges and histograms as they stand; each measurement changes one
of them. Counters with a label have one value per value of the label, and none for label values
that have never been counted.
-/

set_option autoImplicit false

namespace IngressController.Metrics

/-- The upper bounds of the duration buckets in milliseconds. -/
def bucketBounds : List Nat :=
  [10, 100, 500, 1000, 2000, 5000, 10000, 30000, 60000]

/-- Durations, counted by bucket, with their sum in seconds. -/
structure Histogram where
  durations : List Nat := []
  seconds : Float := 0

namespace Histogram

/-- A duration in seconds: the whole seconds plus the rest, each as a floating point number. -/
def inSeconds (milliseconds : Nat) : Float :=
  Float.ofNat (milliseconds / 1000) +
    Float.ofNat (milliseconds % 1000 * 1000000) / Float.ofNat 1000000000

/-- The histogram with one more duration. -/
def observe (h : Histogram) (milliseconds : Nat) : Histogram where
  durations := milliseconds :: h.durations
  seconds := h.seconds + inSeconds milliseconds

/-- How many durations there are. -/
def count (h : Histogram) : Nat :=
  h.durations.length

/-- How many durations are at most as long as a bound. -/
def upTo (h : Histogram) (milliseconds : Nat) : Nat :=
  h.durations.countP (· ≤ milliseconds)

end Histogram

/-- The values of all metrics. -/
structure Registry where
  statusUpdates : TextMap Nat := ∅
  statusSyncs : TextMap Histogram := ∅
  tcpBackends : Nat := 0
  tcpSkips : TextMap Nat := ∅
  annotationErrors : TextMap Nat := ∅
  elections : TextMap Nat := ∅
  leader : Bool := false

/-- The counter with one more for a label. -/
def increment (counter : TextMap Nat) (label : String) : TextMap Nat :=
  counter.insert label ((counter.get? label).getD 0 + 1)

/-- The registry after a measurement. -/
def Registry.record (r : Registry) : Measurement → Registry
  | .statusUpdate outcome => { r with statusUpdates := increment r.statusUpdates outcome }
  | .statusSync success milliseconds =>
    let result := if success then "success" else "error"
    let old := (r.statusSyncs.get? result).getD {}
    { r with statusSyncs := r.statusSyncs.insert result (old.observe milliseconds) }
  | .tcpBackends count => { r with tcpBackends := count }
  | .tcpSkip reason => { r with tcpSkips := increment r.tcpSkips reason }
  | .annotationError feature => { r with annotationErrors := increment r.annotationErrors feature }
  | .leadership true => { r with elections := increment r.elections "acquired", leader := true }
  | .leadership false => { r with elections := increment r.elections "lost", leader := false }

/-- The registry after the measurements among some notes. -/
def Registry.recordAll (r : Registry) (notes : List Note) : Registry :=
  (notes.filterMap Note.measurement?).foldl Registry.record r

end IngressController.Metrics
