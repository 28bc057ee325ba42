import LoadReport.Proofs.Config.WellFormed
import LoadReport.Proofs.Layout.Existence
import LoadReport.Proofs.Run.Sections

/-!
# Where runs crash

A run crashes at the first figure that has no layout, if it gets that far. Once a configuration is
accepted there are colours for everything, so that only labels are left: a format that asks for more
places than can be written out, and a value to write.
-/

namespace LoadReport

open Outcomes

/-- A figure overflows if one of its charts has a value to label and an overlong format to do it
with. -/
def Figure.Overflows (figure : Figure) (tree : FileTree) (scenarios : List Scenario) : Prop :=
  ∃ chart ∈ figure.charts, chart.labelFormat.Overlong ∧
    ∃ metric ∈ chart.metrics, ∃ scenario ∈ scenarios, (scenario.value? tree metric).isSome

section

variable (tree : FileTree) (part : Section)

theorem Section.found_has_iff (metric : Metric) :
    Dataset.Has ⟨part.found tree⟩ metric ↔
      ∃ scenario ∈ part.scenarios, (scenario.value? tree metric).isSome := by
  simp only [Dataset.Has, Section.found, List.mem_filterMap, Scenario.value?,
    Option.isSome_bind, Option.any_eq_true]
  constructor
  · intro has
    obtain ⟨measurement, ⟨scenario, member, found⟩, observed⟩ := has
    exact ⟨scenario, member, measurement, found, observed⟩
  · intro has
    obtain ⟨scenario, member, measurement, found, observed⟩ := has
    exact ⟨measurement, ⟨scenario, member, found⟩, observed⟩

theorem Figure.layout?_eq_none_iff_overflows {figure : Figure} (wellFormed : figure.WellFormed) :
    figure.layout? ⟨part.found tree⟩ = none ↔ figure.Overflows tree part.scenarios := by
  rw [Figure.layout?_eq_none_iff, Figure.Overflows]
  refine exists_congr fun chart => and_congr_right fun member => ?_
  have colored := (wellFormed.charts chart member).colored
  simp only [Chart.layout?_eq_none_iff, colored, false_and, false_or, part.found_has_iff tree]

theorem Figure.Overflows.isLive {figure : Figure} (overflows : figure.Overflows tree part.scenarios) :
    part.isLive tree = true := by
  obtain ⟨_, _, _, metric, _, scenario, member, observed⟩ := overflows
  refine List.any_eq_true.mpr ⟨scenario, member, ?_⟩
  cases found : scenario.found? tree with
  | none => simp [Scenario.value?, found] at observed
  | some measurement => simp [Scenario.isFound, found]

end

namespace Report

section

variable {tree : FileTree} {part : Section} {before after : List Step}

theorem layout?_eq_none_of_crash {dataset : Dataset} {figure : Figure}
    (split : figureScript dataset figure = before ++ .crash :: after) :
    figure.layout? dataset = none ∧ before = [] := by
  cases laidOut : figure.layout? dataset with
  | some layout =>
    have crash : Step.crash ∈ figureScript dataset figure := by
      rw [split]
      exact List.mem_append_right _ List.mem_cons_self
    rw [figureScript_eq laidOut] at crash
    simp at crash
  | none =>
    rw [figureScript_eq_crash laidOut] at split
    cases before with
    | nil => exact ⟨rfl, rfl⟩
    | cons step rest => simp at split

theorem figure_of_crash (split : sectionScript tree part = before ++ .crash :: after) :
    ∃ drawn figure undrawn, part.figures = drawn ++ figure :: undrawn ∧
      figure.layout? ⟨part.found tree⟩ = none ∧ before = sectionScript tree ⟨part.scenarios, drawn⟩ := by
  have unlogged : Step.crash ∉ (Scenario.loadAll tree part.scenarios).events.map .log := by simp
  have unwarned : Step.crash ∉ (part.missing tree).map fun path => .print (.skipped path) := by simp
  obtain ⟨failure, script⟩ | ⟨_, script⟩ := sectionScript_cases tree part.scenarios
  · rw [script part.figures] at split
    obtain ⟨inner, _, failed⟩ := append_eq_append_cons_of_not_mem split unlogged
    cases inner <;> simp at failed
  -- Neither the log nor the warnings hold a crash, so that it stands behind both.
  · rw [script part.figures] at split
    obtain ⟨inner, rfl, loaded⟩ := append_eq_append_cons_of_not_mem split unlogged
    obtain ⟨innermost, rfl, drawing⟩ := append_eq_append_cons_of_not_mem loaded unwarned
    cases live : part.isLive tree with
    | false =>
      simp only [live] at drawing
      cases innermost <;> simp at drawing
    | true =>
      rw [live, if_pos rfl] at drawing
      obtain ⟨drawn, figure, undrawn, first, last, figures, crashed, rfl, _⟩ :=
        (flatMap_eq_append_cons_iff _ _ _ _ _).mp drawing
      obtain ⟨noLayout, rfl⟩ := layout?_eq_none_of_crash crashed
      refine ⟨drawn, figure, undrawn, figures, noLayout, ?_⟩
      -- The figures before it make the script of a section of their own.
      have sameLive : Section.isLive tree ⟨part.scenarios, drawn⟩ = true := live
      rw [script drawn, loadedSteps, sameLive, if_pos rfl, List.append_nil]
      rfl

theorem crash_of_figure {drawn undrawn : List Figure} {figure : Figure}
    (figures : part.figures = drawn ++ figure :: undrawn) (live : part.isLive tree = true)
    (noLayout : figure.layout? ⟨part.found tree⟩ = none)
    (sound : ∀ step ∈ sectionScript tree ⟨part.scenarios, drawn⟩, step.ends = false) :
    ∃ after, sectionScript tree part =
      sectionScript tree ⟨part.scenarios, drawn⟩ ++ .crash :: after := by
  obtain ⟨_, script⟩ := sectionScript_of_sound sound
  -- What is found for a section does not depend on its figures.
  have first : Section.isLive tree ⟨part.scenarios, drawn⟩ = true := live
  have same : Section.found tree ⟨part.scenarios, drawn⟩ = part.found tree := rfl
  refine ⟨undrawn.flatMap (figureScript ⟨part.found tree⟩), ?_⟩
  have whole := script part.figures
  rw [figures, loadedSteps_append first, same, List.flatMap_cons, figureScript_eq_crash noLayout,
    ← List.append_assoc, ← script drawn, ← figures] at whole
  exact whole

end

/-! ## Whole runs -/

section

variable {σ : Type} (backend : Drawing.Backend σ) (limit : Option Nat) (initial : σ) (tree : FileTree)

/-- A run arrives at a figure of a section if it completes everything in front of that figure. -/
def Arrives (config : Config) (part : Section) (figure : Figure) : Prop :=
  ∃ earlier later drawn undrawn, config.sections = earlier ++ part :: later ∧
    part.figures = drawn ++ figure :: undrawn ∧
    ((Trace.start initial).performAll backend limit
      ((earlier ++ [Section.mk part.scenarios drawn]).flatMap (sectionScript tree))).1 = .completed

/-- An accepted configuration crashes exactly where a run arrives at a figure that overflows, whatever
the backend, the console and the files. -/
theorem accepted_run_crashes_iff_overflow (config : Config) (accepted : config.check = .ok ()) :
    (run backend limit initial tree config).1 = .crashed ↔
      ∃ part figure, Arrives backend limit initial tree config part figure ∧
        figure.Overflows tree part.scenarios := by
  have wellFormed := (config.check_eq_ok_iff).mp accepted
  have lacksLayout : ∀ part ∈ config.sections, ∀ figure ∈ part.figures,
      (figure.layout? ⟨part.found tree⟩ = none ↔ figure.Overflows tree part.scenarios) := by
    intro part member figure inside
    have drawable := (wellFormed.sections part member).figures figure inside
    exact Figure.layout?_eq_none_iff_overflows tree part drawable
  rw [run, script_of_ok accepted, Trace.performAll_crashed_iff]
  constructor
  · intro crash
    obtain ⟨before, after, split, completed⟩ := crash
    obtain ⟨earlier, part, later, first, last, sections, crashed, rfl, _⟩ :=
      (flatMap_eq_append_cons_iff _ _ _ _ _).mp split
    obtain ⟨drawn, figure, undrawn, figures, noLayout, rfl⟩ := figure_of_crash crashed
    refine ⟨part, figure, ⟨earlier, later, drawn, undrawn, sections, figures, ?_⟩, ?_⟩
    · rw [List.flatMap_append, List.flatMap_singleton]
      exact completed
    · exact (lacksLayout part (by simp [sections]) figure (by simp [figures])).mp noLayout
  · intro overflow
    obtain ⟨part, figure, arrives, overflows⟩ := overflow
    obtain ⟨earlier, later, drawn, undrawn, sections, figures, completed⟩ := arrives
    have noLayout := (lacksLayout part (by simp [sections]) figure (by simp [figures])).mpr overflows
    rw [List.flatMap_append, List.flatMap_singleton] at completed
    -- Nothing in front of the figure ends the run, so that its section cannot have failed to load.
    have sound := Trace.ends_of_performAll_completed backend limit _ _ completed
    obtain ⟨after, crash⟩ := crash_of_figure figures (overflows.isLive tree part) noLayout
      fun step inside => sound step (List.mem_append_right _ inside)
    refine ⟨_, after ++ later.flatMap (sectionScript tree), ?_, completed⟩
    rw [sections, List.flatMap_append, List.flatMap_cons, crash]
    simp only [List.append_assoc, List.cons_append]

end

/-- A chart whose labels ask for one place more than can be written out. -/
def overlongChart : Chart :=
  { title := "Load", kind := .bar, metrics := [.throughput], xLabel := none, yLabel := "",
    labelFormat := ⟨"%.65536f", [.fixed 65536]⟩, yMax := none, labelOffset := 0, colors := none }

/-- A report with an overlong chart in its second image. -/
def overlongReport : Config :=
  ⟨[⟨[⟨"Uniform", .embedded ⟨some 326.5, none, none⟩⟩],
    [.create ⟨"a.png"⟩ [{ overlongChart with labelFormat := ⟨"%d", [.integer]⟩ }],
      .create ⟨"b.png"⟩ [overlongChart]]⟩]⟩

theorem overlongReport_crashes_where_it_overflows :
    overlongReport.check = .ok () ∧
      ∃ part figure,
        Arrives (Drawing.recording []) none [] FileTree.empty overlongReport part figure ∧
          figure.Overflows FileTree.empty part.scenarios := by
  have accepted : overlongReport.check = .ok () := by decide +kernel
  have crashed : (run (Drawing.recording []) none [] FileTree.empty overlongReport).1 = .crashed := by
    decide +kernel
  exact ⟨accepted, (accepted_run_crashes_iff_overflow _ none [] _ overlongReport accepted).mp crashed⟩

/-- Being accepted does not keep a report from crashing. -/
theorem accepted_report_may_crash :
    Chart.create "Load" .bar .throughput "" "%.65536f" = .ok overlongChart ∧
      overlongReport.check = .ok () ∧
      (run (Drawing.recording []) none [] FileTree.empty overlongReport).1 = .crashed := by
  refine ⟨?_, ?_, ?_⟩
  · decide +kernel
  · decide +kernel
  · decide +kernel

end Report

end LoadReport
