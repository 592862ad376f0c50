import IngressController.Metrics.Registry
import IngressController.Decimal.Shortest

/-!
# The text form of the metrics

The families come in the order of their names. Each starts with a line of help and a line with its
type, followed by its samples in the order of their labels. A family with labels is left out as
long as it has no sample; the gauges are always there. In label values a backslash, a double quote
and a line feed are escaped.
-/

set_option autoImplicit false

namespace IngressController.Metrics

/-- What stands in front of the name of every metric. -/
def namespacePart : String := "haproxy_ingress_"

/-- A label value with the characters escaped that would end it. -/
def escapeLabel (value : String) : String :=
  String.ofList <| value.toList.flatMap fun c =>
    if c = '\\' then ['\\', '\\']
    else if c = '"' then ['\\', '"']
    else if c = '\n' then ['\\', 'n']
    else [c]

/-- A label with its value. -/
def labelText (name value : String) : String :=
  name ++ "=\"" ++ escapeLabel value ++ "\""

/-- The two lines in front of the samples of a family. -/
def header (name help kind : String) : List String :=
  ["# HELP " ++ namespacePart ++ name ++ " " ++ help,
   "# TYPE " ++ namespacePart ++ name ++ " " ++ kind]

/-- A sample: the name of a metric, its labels and its value. -/
def sample (name : String) (labels : List String) (value : String) : String :=
  let labelList :=
    if labels.isEmpty then "" else "\x7b" ++ ",".intercalate labels ++ "\x7d"
  namespacePart ++ name ++ labelList ++ " " ++ value

/-- The number of things counted, as a floating point metric shows it. -/
def countText (n : Nat) : String :=
  Decimal.print (Float.ofNat n)

/-- The lines of a counter with one label. -/
def counterLines (name help label : String) (counter : TextMap Nat) : List String :=
  if counter.entries.isEmpty then []
  else header name help "counter" ++
    counter.entries.map fun (value, n) => sample name [labelText label value] (countText n)

/-- The lines of a gauge. -/
def gaugeLines (name help : String) (value : Nat) : List String :=
  header name help "gauge" ++ [sample name [] (countText value)]

/-- The upper bound of a bucket in seconds. -/
def boundText (milliseconds : Nat) : String :=
  Decimal.print (Histogram.inSeconds milliseconds)

/-- The lines of one histogram: its buckets with running totals, its sum and its count. -/
def histogramSamples (name label value : String) (h : Histogram) : List String :=
  let own := labelText label value
  let bucket (bound : String) (n : Nat) : String :=
    sample (name ++ "_bucket") [own, "le=\"" ++ bound ++ "\""] (Text.decimal n)
  bucketBounds.map (fun bound => bucket (boundText bound) (h.upTo bound)) ++
    [bucket "+Inf" h.count,
     sample (name ++ "_sum") [own] (Decimal.print h.seconds),
     sample (name ++ "_count") [own] (Text.decimal h.count)]

/-- The lines of a histogram with one label. -/
def histogramLines (name help label : String) (histograms : TextMap Histogram) : List String :=
  if histograms.entries.isEmpty then []
  else header name help "histogram" ++
    histograms.entries.flatMap fun (value, h) => histogramSamples name label value h

/-- All metrics in text form, line by line. -/
def Registry.lines (r : Registry) : List String :=
  counterLines "annotation_errors_total" "Total number of annotation parse failures by feature"
      "feature" r.annotationErrors ++
    counterLines "leader_elections_total" "Total number of leader election events by status"
      "status" r.elections ++
    gaugeLines "leader_status" "Current leader election status (1 = leader, 0 = follower)"
      (if r.leader then 1 else 0) ++
    histogramLines "status_sync_duration_seconds"
      "Duration of Ingress status sync passes in seconds" "result" r.statusSyncs ++
    counterLines "status_updates_total" "Total number of Ingress status updates by outcome"
      "outcome" r.statusUpdates ++
    gaugeLines "tcp_backends" "Number of TCP backends produced by the last sync pass"
      r.tcpBackends ++
    counterLines "tcp_skipped_total" "Total number of TCP services entries skipped by reason"
      "reason" r.tcpSkips

/-- A metric that is not zero: its name, its label if it has one, and its value, which for a
histogram is the number of its samples. -/
structure Reading where
  name : String
  label : Option (String × String) := none
  value : Nat

/-- Every metric that is not zero. -/
def Registry.readings (r : Registry) : List Reading :=
  let counter (name label : String) (values : TextMap Nat) : List Reading :=
    values.entries.map fun (value, n) => ⟨name, some (label, value), n⟩
  let all := counter "annotation_errors_total" "feature" r.annotationErrors ++
    counter "leader_elections_total" "status" r.elections ++
    [⟨"leader_status", none, if r.leader then 1 else 0⟩] ++
    r.statusSyncs.entries.map (fun (value, h) =>
      ⟨"status_sync_duration_seconds", some ("result", value), h.count⟩) ++
    counter "status_updates_total" "outcome" r.statusUpdates ++
    [⟨"tcp_backends", none, r.tcpBackends⟩] ++
    counter "tcp_skipped_total" "reason" r.tcpSkips
  all.filter fun reading => reading.value != 0

end IngressController.Metrics
