import LoadReport.Measurement

/-! # Results of a benchmark run

The summary that the benchmark leaves behind at the end of a run: an object with ten fields, each of
which may be missing and is then zero, empty or without a value. -/

namespace LoadReport

/-- What the benchmark sums up at the end of a run. -/
structure Results where
  workload : String
  durationSec : Binary64
  totalRequests : UInt64
  throughput : Binary64
  successCreated : UInt64
  successReplay : UInt64
  abortsConflict : UInt64
  abortRate : Binary64
  errors : UInt64
  p95Latency : Option Binary64
deriving DecidableEq

namespace Results

def empty : Results where
  workload := ""
  durationSec := 0
  totalRequests := 0
  throughput := 0
  successCreated := 0
  successReplay := 0
  abortsConflict := 0
  abortRate := 0
  errors := 0
  p95Latency := none

inductive Field where
  | workload
  | durationSec
  | totalRequests
  | throughput
  | successCreated
  | successReplay
  | abortsConflict
  | abortRate
  | errors
  | p95Latency
deriving DecidableEq

namespace Field

/-- All fields, in the order in which they are written. -/
def all : List Field :=
  [workload, durationSec, totalRequests, throughput, successCreated, successReplay,
    abortsConflict, abortRate, errors, p95Latency]

def key : Field → String
  | workload => "workload"
  | durationSec => "duration_sec"
  | totalRequests => "total_requests"
  | throughput => "throughput_tps"
  | successCreated => "success_created"
  | successReplay => "success_replay"
  | abortsConflict => "aborts_conflict"
  | abortRate => "abort_rate_pct"
  | errors => "errors"
  | p95Latency => "p95_latency_ms"

/-- The field with the given key; keys are case-sensitive. -/
def ofKey? (key : String) : Option Field :=
  all.find? fun field => field.key = key

end Field

/-- The measurement that the results are for a scenario: a missing latency counts as zero. -/
def toMeasurement (results : Results) (scenario : String) : Measurement where
  scenario := scenario
  values :=
    { throughput := some results.throughput
      p95Latency := some (results.p95Latency.getD 0)
      abortRate := some results.abortRate }

end Results

end LoadReport
