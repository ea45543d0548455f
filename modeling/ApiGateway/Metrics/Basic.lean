import ApiGateway.Number.Binary64
import ApiGateway.Time.Duration

/-!
# Request counts and latencies

A counter has one series a pair of route name and status, a histogram one a route
name. Counter series are found by their label values written one after the
other, so the first pair with a given text labels the series.
-/

namespace ApiGateway

/-- A counter of requests. -/
structure CounterSeries where
  route : String
  status : String
  count : Nat
deriving DecidableEq

/-- A histogram of latencies in seconds: how many fell in each bucket, how many there were
and their sum. -/
structure LatencySeries where
  route : String
  buckets : List Nat
  count : Nat
  sum : Binary64
deriving DecidableEq

/-- All series, in the order of their first observation. -/
structure Metrics where
  requests : List CounterSeries
  latencies : List LatencySeries
deriving DecidableEq

namespace Metrics

def empty : Metrics := ⟨[], []⟩

/-- The upper bounds of the buckets in thousandths of a second; the last bucket has none. -/
def bucketMillis : List Nat :=
  [5, 10, 25, 50, 100, 250, 500, 1000, 2500, 5000, 10000]

def bucketBounds : List Binary64 :=
  bucketMillis.map fun ms => .ofRatio false ms 1000

/-- A duration in seconds: whole seconds plus the rest, each rounded. -/
def seconds (latency : Duration) : Binary64 :=
  (Binary64.ofNat (latency / 1000000000)).add
    (.ofRatio false (latency % 1000000000) 1000000000)

/-- Does a series belong to a pair of labels? The two labels are hashed as one text; here the text
itself is compared, so that no two texts collide. -/
def CounterSeries.isFor (series : CounterSeries) (route status : String) : Bool :=
  series.route ++ series.status == route ++ status

/-- Count one request in its series, which is created when it is missing. -/
def countRequest (route status : String) : List CounterSeries → List CounterSeries
  | [] => [⟨route, status, 1⟩]
  | series :: rest =>
    if CounterSeries.isFor series route status then
      { series with count := series.count + 1 } :: rest
    else series :: countRequest route status rest

/-- Add one to the first bucket whose bound is at least the value. -/
def fillBucket (value : Binary64) : List Binary64 → List Nat → List Nat
  | bound :: bounds, n :: counts =>
    if value.le bound then (n + 1) :: counts else n :: fillBucket value bounds counts
  | _, counts => counts

/-- One more latency in a series. -/
def LatencySeries.add (value : Binary64) (series : LatencySeries) : LatencySeries :=
  { series with
    buckets := fillBucket value bucketBounds series.buckets
    count := series.count + 1
    sum := series.sum.add value }

/-- Add a latency to the series of its route, which is created when it is missing. -/
def addLatency (route : String) (value : Binary64) : List LatencySeries → List LatencySeries
  | [] =>
    [LatencySeries.add value
      ⟨route, bucketBounds.map fun _ => 0, 0, .zero false⟩]
  | series :: rest =>
    if series.route == route then LatencySeries.add value series :: rest
    else series :: addLatency route value rest

/-- Count a request that was answered with a status after a latency. -/
def observe (metrics : Metrics) (route : String) (status : Nat) (latency : Duration) : Metrics :=
  { requests := countRequest route (toString status) metrics.requests
    latencies := addLatency route (seconds latency) metrics.latencies }

/-- The count of the series with exactly these labels; reading creates none. -/
def requestCount (metrics : Metrics) (route : String) (status : Nat) : Nat :=
  match metrics.requests.find? fun series =>
    series.route == route && series.status == toString status with
  | some series => series.count
  | none => 0

end Metrics

end ApiGateway
