import LoadReport.Binary64.Basic

/-! # Metrics

What a benchmark run is measured by. -/

namespace LoadReport

/-- A quantity that is measured in a run. -/
inductive Metric where
  | throughput
  | p95Latency
  | abortRate
deriving DecidableEq

namespace Metric

/-- All metrics, in the order in which records are checked. -/
def all : List Metric :=
  [throughput, p95Latency, abortRate]

/-- The name in figures. -/
def name : Metric → String
  | throughput => "Throughput"
  | p95Latency => "p95 Latency"
  | abortRate => "Abort Rate"

/-- The name in messages. -/
def key : Metric → String
  | throughput => "throughput"
  | p95Latency => "p95_latency_ms"
  | abortRate => "abort_rate_pct"

/-- The largest value a metric can take, if there is one. -/
def maximum? : Metric → Option Binary64
  | throughput => none
  | p95Latency => none
  | abortRate => some 100

end Metric

end LoadReport
