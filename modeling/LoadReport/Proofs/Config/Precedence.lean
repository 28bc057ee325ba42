import LoadReport.Proofs.Conditions
import LoadReport.Proofs.Config.WellFormed
import LoadReport.Proofs.Path

/-!
# Which violation is reported

A configuration that is not well-formed may violate many conditions at once. `Config.conditions` lists
all of them in the order in which a reader meets them, each with the failure that it is reported by, and
checking a configuration reports the first of the list that does not hold (`Config.check_eq_verdict`).
-/

namespace LoadReport

open Outcomes Condition

/-! ## Charts -/

namespace Chart

def metricConditions (earlier metrics : List Metric) : List Condition :=
  (withEarlier (fun metric => [metric]) earlier metrics).map fun (earlier, metric) =>
    ofCause (metric ∉ earlier) (.repeatedMetric metric)

def boundConditions (bound : Option Binary64) : List Condition :=
  bound.toList.map fun bound => ofCause (bound.isFinite ∧ 0 < bound) (.boundNotPositive bound)

def colorConditions (colors : Option (List Palette.Color)) : List Condition :=
  colors.toList.map fun colors => ofCause (colors ≠ []) .noColors

/-- What has to hold of a chart: of its metrics, its bound, its offset and its colours. -/
def conditions (chart : Chart) : List Condition :=
  ofCause (chart.metrics ≠ []) .noMetrics ::
    (metricConditions [] chart.metrics ++ boundConditions chart.yMax ++
      ofCause (chart.labelOffset.isFinite ∧ 0 ≤ chart.labelOffset)
        (.offsetNegative chart.labelOffset) ::
      colorConditions chart.colors)

theorem checkMetrics_eq_verdict (earlier metrics : List Metric) :
    checkMetrics earlier metrics = verdict (metricConditions earlier metrics) := by
  induction metrics generalizing earlier with
  | nil => rfl
  | cons metric rest inductionHypothesis =>
    rw [checkMetrics, inductionHypothesis]
    exact (verdict_cons _ _ _).symm

theorem checkBound_eq_verdict (bound : Option Binary64) :
    checkBound bound = verdict (boundConditions bound) := by
  cases bound with
  | none => rfl
  | some bound => exact (verdict_singleton _ _).symm

theorem checkColors_eq_verdict (colors : Option (List Palette.Color)) :
    checkColors colors = verdict (colorConditions colors) := by
  cases colors with
  | none => rfl
  | some colors => exact (verdict_singleton _ _).symm

theorem check_eq_verdict (chart : Chart) : chart.check = verdict chart.conditions := by
  simp only [check, conditions, checkMetrics_eq_verdict, checkBound_eq_verdict,
    checkColors_eq_verdict, verdict_cons, verdict_append, bind_assoc]

end Chart

/-! ## Figures -/

namespace Figure

def resolutionConditions (resolution : Option Nat) : List Condition :=
  resolution.toList.map fun resolution => ofCause (0 < resolution) .resolutionNotPositive

/-- What has to hold of charts, one after the other. -/
def chartConditions (charts : List Chart) : List Condition :=
  charts.flatMap fun chart => chart.conditions.map (within (.chart chart.title))

/-- What has to hold of a figure: of the figure itself, and then of its charts. -/
def conditions (figure : Figure) : List Condition :=
  ofCause (figure.charts ≠ []) .noCharts ::
    ofCause (0 < figure.size.1 ∧ 0 < figure.size.2)
      (.sizeNotPositive figure.size.1 figure.size.2) ::
    (resolutionConditions figure.resolution ++ chartConditions figure.charts)

theorem checkResolution_eq_verdict (resolution : Option Nat) :
    checkResolution resolution = verdict (resolutionConditions resolution) := by
  cases resolution with
  | none => rfl
  | some resolution => exact (verdict_singleton _ _).symm

theorem checkCharts_eq_verdict (charts : List Chart) :
    checkCharts charts = verdict (chartConditions charts) := by
  induction charts with
  | nil => rfl
  | cons chart rest inductionHypothesis =>
    rw [checkCharts, inductionHypothesis, chart.check_eq_verdict, ← verdict_within, ← verdict_append]
    rfl

theorem check_eq_verdict (figure : Figure) : figure.check = verdict figure.conditions := by
  simp only [check, checkSize, conditions, checkResolution_eq_verdict, checkCharts_eq_verdict,
    verdict_cons, verdict_append]

end Figure

/-! ## Sections -/

instance (first second : Path) : Decidable (first.Differs second) :=
  inferInstanceAs (Decidable (_ ≠ _))

namespace Section

def labelConditions (earlier : List String) (scenarios : List Scenario) : List Condition :=
  (withEarlier (fun scenario => [scenario.label]) earlier scenarios).map fun (earlier, scenario) =>
    ofCause (scenario.label ∉ earlier) (.duplicateScenario scenario.label)

/-- What has to hold of figures, one after the other: each has an output of its own, and is in order
itself. -/
def figureConditions (taken : List Path) (figures : List Figure) : List Condition :=
  (withEarlier (fun figure => [figure.output]) taken figures).flatMap fun (taken, figure) =>
    ofCause (∀ other ∈ taken, other.Differs figure.output) (.sharedOutput figure.output) ::
      figure.conditions.map (within (.figure figure.output))

/-- What has to hold of a section behind those with the given outputs. -/
def conditions (taken : List Path) (part : Section) : List Condition :=
  ofCause (part.figures ≠ []) .noFigures ::
    (labelConditions [] part.scenarios ++ figureConditions taken part.figures)

theorem checkLabels_eq_verdict (earlier : List String) (scenarios : List Scenario) :
    checkLabels earlier scenarios = verdict (labelConditions earlier scenarios) := by
  induction scenarios generalizing earlier with
  | nil => rfl
  | cons scenario rest inductionHypothesis =>
    rw [checkLabels, inductionHypothesis]
    exact (verdict_cons _ _ _).symm

theorem checkFigures_eq_verdict (taken : List Path) (figures : List Figure) :
    checkFigures taken figures =
      verdict (figureConditions taken figures) >>= fun _ =>
        pure ((figures.map Figure.output).reverse ++ taken) := by
  induction figures generalizing taken with
  | nil => rfl
  | cons figure rest inductionHypothesis =>
    -- The outputs are handed on from figure to figure, the last one first.
    have outputs : ((figure :: rest).map Figure.output).reverse ++ taken =
        (rest.map Figure.output).reverse ++ figure.output :: taken := by simp
    have conditions : figureConditions taken (figure :: rest) =
        ofCause (∀ other ∈ taken, other.Differs figure.output) (.sharedOutput figure.output) ::
          (figure.conditions.map (within (.figure figure.output)) ++
            figureConditions (figure.output :: taken) rest) := rfl
    simp only [checkFigures, inductionHypothesis, figure.check_eq_verdict, conditions, verdict_cons,
      verdict_append, verdict_within, bind_assoc, outputs, all_not_same_iff]

theorem check_eq_verdict (taken : List Path) (part : Section) :
    part.check taken =
      verdict (part.conditions taken) >>= fun _ => pure (part.outputs.reverse ++ taken) := by
  simp only [check, conditions, checkLabels_eq_verdict, checkFigures_eq_verdict, verdict_cons,
    verdict_append, bind_assoc, outputs]

end Section

/-! ## Configurations -/

namespace Config

def sectionConditions (taken : List Path) (sections : List Section) : List Condition :=
  (withEarlier Section.outputs taken sections).flatMap fun (taken, part) => part.conditions taken

/-- What has to hold of a configuration, in the order in which a reader meets it. -/
def conditions (config : Config) : List Condition :=
  sectionConditions [] config.sections

theorem checkSections_eq_verdict (taken : List Path) (sections : List Section) :
    checkSections taken sections = verdict (sectionConditions taken sections) := by
  induction sections generalizing taken with
  | nil => rfl
  | cons part rest inductionHypothesis =>
    rw [checkSections, part.check_eq_verdict, bind_assoc, sectionConditions, withEarlier,
      List.flatMap_cons, verdict_append]
    simp only [inductionHypothesis, pure_bind]
    rfl

theorem check_eq_verdict (config : Config) : config.check = verdict config.conditions :=
  checkSections_eq_verdict [] config.sections

/-- Exactly the well-formed configurations are accepted, where a slash or a `.` more does not tell two
outputs apart. Of any other configuration, the first condition that is violated is reported, in the
name of the figure and of the chart that it is about. -/
theorem first_violated_condition_is_reported (config : Config) :
    (config.check = .ok () ↔ config.WellFormed) ∧
      (∀ failure, config.check = .error failure ↔
        ∃ before violated after, config.conditions = before ++ violated :: after ∧
          (∀ other ∈ before, other.holds = true) ∧ violated.holds = false ∧
          violated.failure = failure) ∧
      ∀ output other : Path, output.Respelled other → ¬ output.Differs other := by
  refine ⟨config.check_eq_ok_iff, fun failure => ?_, ?_⟩
  · rw [check_eq_verdict, verdict_eq_error_iff]
  · intro output other respelled differs
    exact differs (Path.components_of_respelled respelled)

/-- Of two figures to one output, the first has two charts that cannot be drawn, and neither a width
nor a resolution: what is reported is the width. -/
example :
    let chart : Chart :=
      { title := "Load", kind := .bar, metrics := [.throughput, .throughput], xLabel := none,
        yLabel := "", labelFormat := ⟨"%d", [.integer]⟩, yMax := some .nan, labelOffset := 0,
        colors := some [] }
    let figure (charts : List Chart) : Figure := ⟨⟨"a.png"⟩, some 0, (.nan, 5), charts⟩
    let report (figures : List Figure) := (Config.mk [⟨[], figures⟩]).check
    report [figure [chart, chart], figure []] =
        .error ⟨[.figure ⟨"a.png"⟩], .sizeNotPositive .nan 5⟩ ∧
      report [(figure [chart, chart]).withSize 6 5 |>.withResolution 72] =
        .error ⟨[.figure ⟨"a.png"⟩, .chart "Load"], .repeatedMetric .throughput⟩ := by
  decide +kernel

end Config

end LoadReport
