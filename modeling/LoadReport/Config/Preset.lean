import LoadReport.Config.Basic

/-! # Preset reports

The three reports that are made of the benchmark: one from its results files, two from numbers
recorded in runs of 30 seconds. -/

namespace LoadReport

/-- The reports that need no configuration of their own. -/
inductive Preset where
  | benchmarkResults
  | paperFigures
  | summary
deriving DecidableEq

namespace Preset

def paperResolution : Nat := 300

def resultsFiles : List Scenario :=
  [⟨"Uniform", .file ⟨"results_uniform.json"⟩⟩, ⟨"Hot-Spot", .file ⟨"results_hotspot.json"⟩⟩]

/-- What ten workers reached on each workload. -/
def recordedWorkloads : List Scenario :=
  [⟨"Uniform", .embedded ⟨some 326.5, some 41.3, some 1.79⟩⟩,
    ⟨"Hot-Spot", .embedded ⟨some 527.2, some 23.8, some 87.40⟩⟩]

/-- The throughput that a number of workers reached. -/
def workers (label : String) (throughput : Binary64) : Scenario :=
  ⟨label, .embedded ⟨some throughput, none, none⟩⟩

/-- What more and more workers reached on the uniform workload. -/
def recordedScalability : List Scenario :=
  [workers "1" 48.7, workers "5" 201.3, workers "10" 326.5, workers "25" 402.9,
    workers "50" 418.2]

def throughputBars : Except Failure Chart :=
  Chart.create "System Throughput" .bar .throughput "Transactions Per Second (TPS)" "%.0f"

/-- Bars of the abort rate, on an axis up to one hundred percent. -/
def abortBars : Except Failure Chart := do
  let chart ← Chart.create "Transaction Abort Rate" .bar .abortRate "Abort Rate (%)" "%.1f%%"
  return chart.withYMax 100

/-- Bars of the latency, on an axis up to 60 milliseconds. -/
def latencyBars (yLabel specification : String) : Except Failure Chart := do
  let chart ← Chart.create "p95 Latency" .bar .p95Latency yLabel specification
  return chart.withYMax 60

/-- A line of the throughput across numbers of workers. -/
def scalabilityLine : Except Failure Chart := do
  let chart ← Chart.create "Throughput Scalability (Uniform)" .line .throughput
    "Transactions Per Second (TPS)" "%.0f"
  return (chart.withXLabel "Concurrent Workers").withYMax 500

def paperFigure (output : String) (charts : List Chart) : Figure :=
  (Figure.create ⟨output⟩ charts).withResolution paperResolution

/-- Throughput and abort rate of both workloads, from the results files. -/
def benchmarkResultsConfig : Except Failure Config := do
  let throughput ← throughputBars
  let abort ← abortBars
  let figure := paperFigure "benchmark_results.png" [throughput.withLabelOffset 5, abort]
  return ⟨[⟨resultsFiles, [figure.withSize 12 5]⟩]⟩

/-- Latency, abort rate and scalability, each in an image of its own, from recorded numbers. -/
def paperFiguresConfig : Except Failure Config := do
  let latency ← latencyBars "p95 Latency (ms)" "%.1f ms"
  let abort ← abortBars
  let scalability ← scalabilityLine
  return ⟨[
    ⟨recordedWorkloads,
      [paperFigure "fig06_latency.png" [latency], paperFigure "fig07_abort.png" [abort]]⟩,
    ⟨recordedScalability, [paperFigure "fig08_throughput.png" [scalability]]⟩]⟩

/-- All metrics of both workloads in one image, from recorded numbers. -/
def summaryConfig : Except Failure Config := do
  let throughput ← throughputBars
  let latency ← latencyBars "Latency (ms)" "%.1f"
  let abort ← abortBars
  let figure := Figure.create ⟨"benchmark_summary.png"⟩ [throughput.withYMax 700, latency, abort]
  return ⟨[⟨recordedWorkloads, [figure]⟩]⟩

def config : Preset → Except Failure Config
  | benchmarkResults => benchmarkResultsConfig
  | paperFigures => paperFiguresConfig
  | summary => summaryConfig

end Preset

end LoadReport
