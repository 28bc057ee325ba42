import LoadReport.Drawing.Backend
import LoadReport.Report.Script

/-! # Runs of reports

A run performs the steps of a script in order until one of them goes wrong, and keeps what has been
written, logged and drawn up to there. -/

namespace LoadReport.Report

/-- What a run has brought about so far. -/
structure Trace (σ : Type) where
  /-- The bytes written to the console. -/
  output : List UInt8
  events : List Event
  /-- The outputs that have been announced. -/
  generated : List Path
  backend : σ
deriving DecidableEq

inductive Ending where
  | completed
  | failed (failure : Failure)
  | crashed
deriving DecidableEq

namespace Trace

def start {σ : Type} (backend : σ) : Trace σ where
  output := []
  events := []
  generated := []
  backend := backend

/-- Writes to a console that takes a limited number of bytes, if there is a limit. What fits is
written. -/
def emit (limit : Option Nat) (output : List UInt8) (text : String) :
    Except Failure Unit × List UInt8 :=
  let bytes := text.toUTF8.data.toList
  match limit with
  | none => (.ok (), output ++ bytes)
  | some limit =>
    let room := limit - output.length
    if bytes.length ≤ room then (.ok (), output ++ bytes)
    else (.error (Failure.ofCause (.file .brokenPipe)), output ++ bytes.take room)

def perform {σ : Type} (backend : Drawing.Backend σ) (limit : Option Nat) (trace : Trace σ) :
    Step → Ending × Trace σ
  | .log event => (.completed, { trace with events := trace.events ++ [event] })
  | .print line =>
    match emit limit trace.output line.text with
    | (.error failure, output) => (.failed failure, { trace with output })
    | (.ok (), output) =>
      (.completed, { trace with output, generated := trace.generated ++ line.output?.toList })
  | .draw layout =>
    match backend.draw trace.backend layout with
    | (.error failure, next) =>
      (.failed (failure.within (.drawFigure layout.output)), { trace with backend := next })
    | (.ok (), next) => (.completed, { trace with backend := next })
  | .fail failure => (.failed failure, trace)
  | .crash => (.crashed, trace)

/-- Performs steps in order, up to the first that does not complete. -/
def performAll {σ : Type} (backend : Drawing.Backend σ) (limit : Option Nat) (trace : Trace σ) :
    List Step → Ending × Trace σ
  | [] => (.completed, trace)
  | step :: rest =>
    match trace.perform backend limit step with
    | (.completed, next) => performAll backend limit next rest
    | stopped => stopped

/-- More steps are performed from where the first ones lead, if these complete. -/
theorem performAll_append {σ : Type} (backend : Drawing.Backend σ) (limit : Option Nat)
    (trace : Trace σ) (first second : List Step) :
    trace.performAll backend limit (first ++ second) =
      match trace.performAll backend limit first with
      | (.completed, next) => next.performAll backend limit second
      | stopped => stopped := by
  induction first generalizing trace with
  | nil => rfl
  | cons step rest ih =>
    rcases performed : trace.perform backend limit step with ⟨ending, next⟩
    cases ending with
    | completed => simp only [List.cons_append, performAll, performed, ih]
    | failed failure => simp only [List.cons_append, performAll, performed]
    | crashed => simp only [List.cons_append, performAll, performed]

end Trace

/-- Runs the report of a configuration on the files of a tree, which its images are not among. -/
def run {σ : Type} (backend : Drawing.Backend σ) (limit : Option Nat) (initial : σ)
    (tree : FileTree) (config : Config) : Ending × Trace σ :=
  (Trace.start initial).performAll backend limit (script tree config)

/-- Runs the report of a configuration on the files of a tree and the images that it saves. -/
def runSaving {σ : Type} (saving : Saving) (backend : Drawing.Backend σ) (limit : Option Nat)
    (initial : σ) (tree : FileTree) (config : Config) : Ending × Trace σ :=
  (Trace.start initial).performAll backend limit (scriptSaving saving tree config)

end LoadReport.Report
