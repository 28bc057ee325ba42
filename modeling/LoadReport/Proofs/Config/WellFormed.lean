import LoadReport.Config.Basic
import LoadReport.Proofs.Outcomes

/-!
# Well-formed configurations

What a configuration has to be like, said without the order in which it is checked. Each check accepts
exactly what is well-formed, up to `Config.check_eq_ok_iff`, and all later proofs go through these
characterisations.
-/

namespace LoadReport

open Outcomes

/-! ## Charts -/

/-- A chart shows some metrics, each once, and has a bound, an offset and colours that can be drawn. -/
structure Chart.WellFormed (chart : Chart) : Prop where
  shows : chart.metrics ≠ []
  distinct : chart.metrics.Nodup
  bound : ∀ bound ∈ chart.yMax, bound.isFinite ∧ 0 < bound
  offset : chart.labelOffset.isFinite ∧ 0 ≤ chart.labelOffset
  colored : chart.colors ≠ some []

namespace Chart

theorem checkMetrics_eq_ok_iff (earlier metrics : List Metric) :
    checkMetrics earlier metrics = .ok () ↔ Apart (· ≠ ·) earlier metrics := by
  induction metrics generalizing earlier with
  | nil => simp [checkMetrics]
  | cons metric rest inductionHypothesis =>
    rw [checkMetrics, check_bind_eq_ok_iff, require_eq_ok_iff, inductionHypothesis, apart_cons_iff,
      List.forall_mem_ne']

theorem checkBound_eq_ok_iff (bound : Option Binary64) :
    checkBound bound = .ok () ↔ ∀ value ∈ bound, value.isFinite ∧ 0 < value := by
  cases bound with
  | none => simp [checkBound]
  | some value => simp [checkBound]

theorem checkColors_eq_ok_iff (colors : Option (List Palette.Color)) :
    checkColors colors = .ok () ↔ colors ≠ some [] := by
  cases colors with
  | none => simp [checkColors]
  | some choice => simp [checkColors]

theorem check_eq_ok_iff (chart : Chart) : chart.check = .ok () ↔ chart.WellFormed := by
  simp only [check, check_bind_eq_ok_iff, require_eq_ok_iff, checkMetrics_eq_ok_iff, apart_nil_iff,
    checkBound_eq_ok_iff, checkColors_eq_ok_iff]
  constructor
  · intro passed
    obtain ⟨shows, distinct, bound, offset, colored⟩ := passed
    exact ⟨shows, distinct, bound, offset, colored⟩
  · intro wellFormed
    obtain ⟨shows, distinct, bound, offset, colored⟩ := wellFormed
    exact ⟨shows, distinct, bound, offset, colored⟩

end Chart

/-! ## Figures -/

/-- A figure has charts, all of them well-formed, and a size and a resolution above zero. -/
structure Figure.WellFormed (figure : Figure) : Prop where
  shows : figure.charts ≠ []
  size : 0 < figure.size.1 ∧ 0 < figure.size.2
  resolution : figure.resolution ≠ some 0
  charts : ∀ chart ∈ figure.charts, chart.WellFormed

namespace Figure

theorem checkResolution_eq_ok_iff (resolution : Option Nat) :
    checkResolution resolution = .ok () ↔ resolution ≠ some 0 := by
  cases resolution with
  | none => simp [checkResolution]
  | some resolution => simp [checkResolution, Nat.pos_iff_ne_zero]

theorem checkCharts_eq_ok_iff (charts : List Chart) :
    checkCharts charts = .ok () ↔ ∀ chart ∈ charts, chart.WellFormed := by
  induction charts with
  | nil => simp [checkCharts]
  | cons chart rest inductionHypothesis =>
    rw [checkCharts, check_bind_eq_ok_iff, during_eq_ok_iff, Chart.check_eq_ok_iff,
      inductionHypothesis, List.forall_mem_cons]

theorem check_eq_ok_iff (figure : Figure) : figure.check = .ok () ↔ figure.WellFormed := by
  simp only [check, check_bind_eq_ok_iff, require_eq_ok_iff, checkSize, checkResolution_eq_ok_iff,
    checkCharts_eq_ok_iff]
  constructor
  · intro passed
    obtain ⟨shows, size, resolution, charts⟩ := passed
    exact ⟨shows, size, resolution, charts⟩
  · intro wellFormed
    obtain ⟨shows, size, resolution, charts⟩ := wellFormed
    exact ⟨shows, size, resolution, charts⟩

end Figure

/-! ## Sections -/

/-- A section has figures, all of them well-formed, and scenarios with labels of their own. -/
structure Section.WellFormed (part : Section) : Prop where
  draws : part.figures ≠ []
  labels : (part.scenarios.map Scenario.label).Nodup
  figures : ∀ figure ∈ part.figures, figure.WellFormed

/-- Two paths are told apart by their components. -/
def Path.Differs (first second : Path) : Prop :=
  first.components ≠ second.components

namespace Section

def outputs (part : Section) : List Path :=
  part.figures.map Figure.output

theorem checkLabels_eq_ok_iff (earlier : List String) (scenarios : List Scenario) :
    checkLabels earlier scenarios = .ok () ↔
      Apart (· ≠ ·) earlier (scenarios.map Scenario.label) := by
  induction scenarios generalizing earlier with
  | nil => simp [checkLabels]
  | cons scenario rest inductionHypothesis =>
    rw [checkLabels, check_bind_eq_ok_iff, require_eq_ok_iff, inductionHypothesis, List.map_cons,
      apart_cons_iff, List.forall_mem_ne']

theorem all_not_same_iff (taken : List Path) (output : Path) :
    (taken.all fun other => !output.same other) ↔ ∀ other ∈ taken, other.Differs output := by
  simp only [List.all_eq_true, Bool.not_eq_true', Path.same, decide_eq_false_iff_not, Path.Differs]
  exact forall₂_congr fun other _ => ne_comm

theorem checkFigures_eq_ok_iff (taken outputs : List Path) (figures : List Figure) :
    checkFigures taken figures = .ok outputs ↔
      Apart Path.Differs taken (figures.map Figure.output) ∧
        (∀ figure ∈ figures, figure.WellFormed) ∧
        outputs = (figures.map Figure.output).reverse ++ taken := by
  induction figures generalizing taken with
  | nil => simp [checkFigures, eq_comm]
  | cons figure rest inductionHypothesis =>
    rw [checkFigures, check_bind_eq_ok_iff, check_bind_eq_ok_iff, require_eq_ok_iff,
      all_not_same_iff, during_eq_ok_iff, Figure.check_eq_ok_iff, inductionHypothesis, List.map_cons,
      apart_cons_iff, List.forall_mem_cons, List.reverse_cons, List.append_assoc,
      List.singleton_append]
    tauto

theorem check_eq_ok_iff (taken outputs : List Path) (part : Section) :
    part.check taken = .ok outputs ↔
      part.WellFormed ∧ Apart Path.Differs taken part.outputs ∧
        outputs = part.outputs.reverse ++ taken := by
  simp only [check, check_bind_eq_ok_iff, require_eq_ok_iff, checkLabels_eq_ok_iff, apart_nil_iff,
    checkFigures_eq_ok_iff, Section.outputs]
  constructor
  · intro passed
    obtain ⟨draws, labels, apart, figures, rfl⟩ := passed
    exact ⟨⟨draws, labels, figures⟩, apart, rfl⟩
  · intro passed
    obtain ⟨⟨draws, labels, figures⟩, apart, rfl⟩ := passed
    exact ⟨draws, labels, apart, figures, rfl⟩

end Section

/-! ## Configurations -/

namespace Config

/-- The outputs of all figures of a report, in order. -/
def outputs (config : Config) : List Path :=
  config.sections.flatMap Section.outputs

/-- A configuration has well-formed sections, whose outputs are told apart by their components. -/
structure WellFormed (config : Config) : Prop where
  sections : ∀ part ∈ config.sections, part.WellFormed
  outputs : config.outputs.Pairwise Path.Differs

theorem checkSections_eq_ok_iff (taken : List Path) (sections : List Section) :
    checkSections taken sections = .ok () ↔
      (∀ part ∈ sections, part.WellFormed) ∧
        Apart Path.Differs taken (sections.flatMap Section.outputs) := by
  -- The outputs of each section are taken for all sections behind it, in reverse.
  induction sections generalizing taken with
  | nil => simp [checkSections]
  | cons part rest inductionHypothesis =>
    simp only [checkSections, bind_eq_ok_iff, Section.check_eq_ok_iff, inductionHypothesis,
      List.flatMap_cons, apart_append_iff, List.forall_mem_cons]
    constructor
    · intro passed
      obtain ⟨_, ⟨wellFormed, apart, rfl⟩, others, othersApart⟩ := passed
      exact ⟨⟨wellFormed, others⟩, apart, othersApart⟩
    · intro passed
      obtain ⟨⟨wellFormed, others⟩, apart, othersApart⟩ := passed
      exact ⟨_, ⟨wellFormed, apart, rfl⟩, others, othersApart⟩

/-- Exactly the well-formed configurations are accepted. -/
theorem check_eq_ok_iff (config : Config) : config.check = .ok () ↔ config.WellFormed := by
  rw [check, checkSections_eq_ok_iff, apart_nil_iff]
  constructor
  · intro passed; exact ⟨passed.1, passed.2⟩
  · intro wellFormed; exact ⟨wellFormed.sections, wellFormed.outputs⟩

end Config

end LoadReport
