import LoadReport.Failure

/-! # Measurements

The values of the metrics that were observed for one scenario. Not every report has all of them. -/

namespace LoadReport

/-- The observed values, each of which may be missing. -/
structure Values where
  throughput : Option Binary64
  p95Latency : Option Binary64
  abortRate : Option Binary64
deriving DecidableEq

namespace Values

def none : Values where
  throughput := .none
  p95Latency := .none
  abortRate := .none

/-- The value of a metric, if it was observed. -/
def get (values : Values) : Metric → Option Binary64
  | .throughput => values.throughput
  | .p95Latency => values.p95Latency
  | .abortRate => values.abortRate

/-- The same values but for one metric. -/
def set (values : Values) : Metric → Binary64 → Values
  | .throughput, value => { values with throughput := some value }
  | .p95Latency, value => { values with p95Latency := some value }
  | .abortRate, value => { values with abortRate := some value }

@[simp] theorem get_set_self (values : Values) (metric : Metric) (value : Binary64) :
    (values.set metric value).get metric = some value := by
  cases metric <;> rfl

end Values

/-- The values observed for a scenario. -/
structure Measurement where
  scenario : String
  values : Values
deriving DecidableEq

namespace Measurement

/-- A value has to be a number from zero on, and at most the metric's maximum. -/
def checkValue (scenario : String) (metric : Metric) (value : Binary64) : Except Failure Unit := do
  require (value.isFinite ∧ 0 ≤ value) (.outOfRange scenario metric value)
  match metric.maximum? with
  | some maximum =>
    require (value ≤ maximum) (.aboveMaximum scenario metric maximum value)
  | none => pure ()

/-- Checks the given metrics in order; missing values are in order. -/
def checkMetrics (measurement : Measurement) : List Metric → Except Failure Unit
  | [] => .ok ()
  | metric :: rest => do
    match measurement.values.get metric with
    | some value => checkValue measurement.scenario metric value
    | none => pure ()
    checkMetrics measurement rest

def check (measurement : Measurement) : Except Failure Unit :=
  measurement.checkMetrics Metric.all

end Measurement

end LoadReport
