import LoadReport.Proofs.Loading
import LoadReport.Proofs.Run.Transcript

/-!
# Scripts of sections and figures

A section's script is its log of loading, and then either the failure that loading ended in or the
warnings and what there is to draw. Every later fact about runs takes a script apart with
`sectionScript_cases` and `figureScript_eq`, never by unfolding.
-/

namespace LoadReport.Report

open Outcomes

theorem figureScript_eq {dataset : Dataset} {figure : Figure} {layout : Figure.Layout}
    (laidOut : figure.layout? dataset = some layout) :
    figureScript dataset figure =
      [.draw layout, .log (.figureDrawn figure.output dataset.size layout.charts.length),
        .print (.generated figure.output)] := by
  rw [figureScript, laidOut]

theorem figureScript_eq_crash {dataset : Dataset} {figure : Figure}
    (noLayout : figure.layout? dataset = none) : figureScript dataset figure = [.crash] := by
  rw [figureScript, noLayout]

/-- The steps of a section behind its log of loading, once all its scenarios are loaded. -/
def loadedSteps (tree : FileTree) (part : Section) : List Step :=
  (part.missing tree).map (fun path => .print (.skipped path)) ++
    if part.isLive tree then part.figures.flatMap (figureScript ⟨part.found tree⟩)
    else [.print .noData]

theorem loadedSteps_append {tree : FileTree} {scenarios : List Scenario} {drawn : List Figure}
    (live : Section.isLive tree ⟨scenarios, drawn⟩ = true) (others : List Figure) :
    loadedSteps tree ⟨scenarios, drawn ++ others⟩ =
      loadedSteps tree ⟨scenarios, drawn⟩ ++
        others.flatMap (figureScript ⟨Section.found tree ⟨scenarios, drawn⟩⟩) := by
  have sameLive : Section.isLive tree ⟨scenarios, drawn ++ others⟩ = true := live
  rw [loadedSteps, loadedSteps, live, sameLive, if_pos rfl, if_pos rfl, List.flatMap_append,
    ← List.append_assoc]
  rfl

theorem loadedScript_eq {tree : FileTree} (part : Section) {findings : List Finding}
    {collected : Dataset × List Path}
    (loads : List.Forall₂ (fun scenario finding => (scenario.load tree).outcome = .ok finding)
      part.scenarios findings)
    (accepted : Dataset.ofFindings findings = .ok collected) :
    ((part.found tree).map Measurement.scenario).Nodup ∧
      loadedScript part.figures findings = loadedSteps tree part := by
  have script : loadedScript part.figures findings =
      collected.2.map (fun path => .print (.skipped path)) ++
        if collected.1.isEmpty then [.print .noData]
        else part.figures.flatMap (figureScript collected.1) := by
    rw [loadedScript, accepted]
  obtain ⟨dataset, absent⟩ := collected
  obtain ⟨checked, rfl, rfl⟩ := (Dataset.ofFindings_eq_ok_iff findings dataset absent).mp accepted
  rw [Scenario.measurements_of_loads loads] at checked script
  rw [Scenario.absentPaths_of_loads loads] at script
  have apart := ((Dataset.checkAll_eq_ok_iff [] _).mp checked).1
  refine ⟨(apart_nil_iff _).mp apart, ?_⟩
  rw [script, loadedSteps, ← Section.missing, ← Section.found]
  cases live : part.isLive tree with
  | false =>
    rw [(part.found_eq_nil_iff tree).mpr live]
    rfl
  | true =>
    have some : part.found tree ≠ [] := by
      simp [part.found_eq_nil_iff tree, live]
    simp [Dataset.isEmpty, some]

/-- A section's figures have no say in whether it fails or goes on after its log. -/
theorem sectionScript_cases (tree : FileTree) (scenarios : List Scenario) :
    (∃ failure, ∀ figures, sectionScript tree ⟨scenarios, figures⟩ =
        (Scenario.loadAll tree scenarios).events.map .log ++ [.fail failure]) ∨
      ((scenarios.filterMap (Scenario.found? tree)).map Measurement.scenario).Nodup ∧
        ∀ figures, sectionScript tree ⟨scenarios, figures⟩ =
          (Scenario.loadAll tree scenarios).events.map .log ++ loadedSteps tree ⟨scenarios, figures⟩ := by
  cases loading : (Scenario.loadAll tree scenarios).outcome with
  | error failure =>
    left
    exact ⟨failure.within .loadScenarios, fun figures => by simp only [sectionScript, loading]⟩
  | ok findings =>
    have loads := (Scenario.loadAll_outcome_eq_ok_iff tree scenarios findings).mp loading
    have script : ∀ figures, sectionScript tree ⟨scenarios, figures⟩ =
        (Scenario.loadAll tree scenarios).events.map .log ++ loadedScript figures findings :=
      fun figures => by simp only [sectionScript, loading]
    simp only [script]
    cases accepted : Dataset.ofFindings findings with
    | error failure =>
      left
      exact ⟨failure, fun figures => by simp only [loadedScript, accepted]⟩
    | ok collected =>
      right
      constructor
      · exact (loadedScript_eq ⟨scenarios, []⟩ loads accepted).1
      · intro figures
        rw [(loadedScript_eq ⟨scenarios, figures⟩ loads accepted).2]

/-- A layout in the script of a section is that of one of its figures, for what is found. -/
theorem figure_of_mem_sectionScript {tree : FileTree} {part : Section} {layout : Figure.Layout}
    (member : Step.draw layout ∈ sectionScript tree part) :
    ∃ figure ∈ part.figures, figure.layout? ⟨part.found tree⟩ = some layout := by
  obtain ⟨failure, script⟩ | ⟨_, script⟩ := sectionScript_cases tree part.scenarios
  · simp [script part.figures] at member
  · simp only [script part.figures, loadedSteps, List.mem_append] at member
    obtain logged | warned | drawn := member
    · simp at logged
    · simp at warned
    · split at drawn
      next =>
        obtain ⟨figure, shown, inside⟩ := List.mem_flatMap.mp drawn
        refine ⟨figure, shown, ?_⟩
        cases laidOut : figure.layout? ⟨part.found tree⟩ with
        | none => simp [figureScript_eq_crash laidOut] at inside
        | some other =>
          simp [figureScript_eq laidOut] at inside
          rw [inside]
      next => simp at drawn

theorem sectionScript_of_sound {tree : FileTree} {scenarios : List Scenario} {figures : List Figure}
    (sound : ∀ step ∈ sectionScript tree ⟨scenarios, figures⟩, step.ends = false) :
    ((scenarios.filterMap (Scenario.found? tree)).map Measurement.scenario).Nodup ∧
      ∀ others, sectionScript tree ⟨scenarios, others⟩ =
        (Scenario.loadAll tree scenarios).events.map .log ++ loadedSteps tree ⟨scenarios, others⟩ := by
  obtain ⟨failure, script⟩ | loaded := sectionScript_cases tree scenarios
  · have failed : Step.fail failure ∈ sectionScript tree ⟨scenarios, figures⟩ := by
      rw [script figures]
      exact List.mem_append_right _ List.mem_cons_self
    cases sound _ failed
  · exact loaded

end LoadReport.Report
