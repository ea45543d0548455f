import ApiGateway.Metrics.Basic
import ApiGateway.Number.Shortest

/-!
# The text that monitoring reads

Each family has a line of help, a line with its type and its series in the order
of their labels. A histogram shows cumulative counts a bound, the sum and the
count.
-/

namespace ApiGateway.Metrics

/-- The media type of the exposition. -/
def contentType : String := "text/plain; version=0.0.4"

/-- The value of a label as it stands between quotes. -/
def escapeLabel (text : String) : String :=
  String.ofList (text.toList.flatMap fun c =>
    if c = '\\' then ['\\', '\\']
    else if c = '"' then ['\\', '"']
    else if c = '\n' then ['\\', 'n']
    else [c])

/-- One line: the name of a family, the labels of a series and a value. -/
def sample (name : String) (labels : List (String × String)) (value : String) : String :=
  let written := labels.map fun (label, text) => label ++ "=\"" ++ escapeLabel text ++ "\""
  name ++ "\x7b" ++ String.intercalate "," written ++ "\x7d " ++ value ++ "\n"

/-- The lines of a family, if it has any series. -/
def family (name kind help : String) (samples : List String) : String :=
  if samples.isEmpty then ""
  else
    "# HELP " ++ name ++ " " ++ help ++ "\n# TYPE " ++ name ++ " " ++ kind ++ "\n" ++
      String.join samples

/-- Counts are written as doubles. -/
def countText (n : Nat) : String := Number.plainText (.ofNat n)

/-- Running totals. -/
def cumulative : Nat → List Nat → List Nat
  | _, [] => []
  | total, n :: rest => (total + n) :: cumulative (total + n) rest

/-- The lines of one histogram. -/
def latencySamples (name : String) (series : LatencySeries) : String :=
  let bucket (bound : String) (count : Nat) : String :=
    sample (name ++ "_bucket") [("route", series.route), ("le", bound)] (countText count)
  let bounded := (bucketBounds.zip (cumulative 0 series.buckets)).map fun (bound, count) =>
    bucket (Number.plainText bound) count
  String.join bounded ++ bucket "+Inf" series.count ++
    sample (name ++ "_sum") [("route", series.route)] (Number.plainText series.sum) ++
    sample (name ++ "_count") [("route", series.route)] (countText series.count)

/-- All series observed so far. -/
def exposition (metrics : Metrics) : String :=
  let latencies := metrics.latencies.mergeSort fun a b => a.route ≤ b.route
  let requests := metrics.requests.mergeSort fun a b =>
    a.route < b.route || (a.route == b.route && a.status ≤ b.status)
  let latencyName := "gateway_request_duration_seconds"
  let requestName := "gateway_requests_total"
  family latencyName "histogram" "Upstream request latency by route"
      (latencies.map (latencySamples latencyName)) ++
    family requestName "counter" "Proxied requests by route and response status"
      (requests.map fun series =>
        sample requestName [("route", series.route), ("status", series.status)]
          (countText series.count))

end ApiGateway.Metrics
