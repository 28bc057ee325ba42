import LoadReport.Results.Basic

/-! # Events

What is logged on the way: each event has a level, a message and named values. -/

namespace LoadReport

inductive EventValue where
  | text (value : String)
  | number (value : Binary64)
  | count (value : Nat)
deriving DecidableEq

/-- Something worth logging. -/
inductive Event where
  | resultsMissing (scenario : String) (path : Path)
  | resultsLoaded (scenario : String) (results : Results)
  | figureDrawn (output : Path) (scenarios charts : Nat)
deriving DecidableEq

namespace Event

def level : Event → String
  | resultsMissing _ _ => "WARN"
  | resultsLoaded _ _ => "DEBUG"
  | figureDrawn _ _ _ => "INFO"

def message : Event → String
  | resultsMissing _ _ => "results file not found"
  | resultsLoaded _ _ => "loaded results file"
  | figureDrawn _ _ _ => "figure drawn"

/-- The named values of an event, in a fixed order. -/
def values : Event → List (String × EventValue)
  | resultsMissing scenario path => [("scenario", .text scenario), ("path", .text path.text)]
  | resultsLoaded scenario results =>
    [("scenario", .text scenario),
      ("workload", .text results.workload),
      ("duration_sec", .number results.durationSec),
      ("total_requests", .count results.totalRequests.toNat),
      ("success_created", .count results.successCreated.toNat),
      ("success_replay", .count results.successReplay.toNat),
      ("aborts_conflict", .count results.abortsConflict.toNat),
      ("errors", .count results.errors.toNat)]
  | figureDrawn output scenarios charts =>
    [("output", .text output.text), ("scenarios", .count scenarios), ("charts", .count charts)]

end Event

end LoadReport
