import LoadReport.Proofs.Layout.Finiteness
import LoadReport.Proofs.Run.Failures
import LoadReport.Proofs.Run.Faults

/-!
# Finite numbers for the backend

What an accepted report hands to the backend has been measured, asked for or counted. Where it stands
and how high it is are finite numbers. Two things are not made sure of: a figure may be asked for in an
infinite size, and a value and the offset of its label may be finite while their sum is not.
-/

namespace LoadReport

open Outcomes

namespace Report

theorem Trace.mem_of_mem_attempted {σ : Type} {backend : Drawing.Backend σ} {limit : Option Nat}
    {trace : Trace σ} {steps : List Step} {step : Step}
    (member : step ∈ trace.attempted backend limit steps) : step ∈ steps := by
  induction steps generalizing trace with
  | nil => exact member
  | cons first rest inductionHypothesis =>
    rw [attempted] at member
    split at member
    next next _ =>
      obtain here | behind := List.mem_cons.mp member
      · exact List.mem_cons.mpr (.inl here)
      · exact List.mem_cons_of_mem first (inductionHypothesis behind)
    next => exact List.mem_cons.mpr (.inl (List.mem_singleton.mp member))

section

variable {config : Config} {tree : FileTree}

/-- A layout in the script of an accepted report is that of a figure of a section, made of measurements
in range. -/
theorem figure_of_mem_script (accepted : config.check = .ok ()) {layout : Figure.Layout}
    (member : Step.draw layout ∈ script tree config) :
    ∃ part ∈ config.sections, ∃ figure ∈ part.figures, figure.WellFormed ∧
      figure.layout? ⟨part.found tree⟩ = some layout := by
  obtain ⟨part, among, wellFormed, inside⟩ := exists_section_of_mem_script accepted member
  obtain ⟨figure, shown, laidOut⟩ := figure_of_mem_sectionScript inside
  exact ⟨part, among, figure, shown, wellFormed.figures figure shown, laidOut⟩

end

/-- Everything that an accepted report hands to the backend is finite, but for the size of a figure and
the heights of labels, which may be infinite; and these are finite exactly if the size was asked for as
such and no value overflows with the offset of its label. Scenarios are counted in 64 bits. -/
theorem drawn_numbers_are_finite_iff {σ : Type} (backend : Drawing.Backend σ) (limit : Option Nat)
    (initial : σ) (tree : FileTree) {config : Config} (accepted : config.check = .ok ())
    (short : ∀ part ∈ config.sections, part.scenarios.length ≤ twoTo 64) {layout : Figure.Layout}
    (drawn : Step.draw layout ∈
      (Trace.start initial).attempted backend limit (script tree config)) :
    ∃ part ∈ config.sections, ∃ figure ∈ part.figures,
      figure.layout? ⟨part.found tree⟩ = some layout ∧
      (∀ chart ∈ layout.charts, ∀ number ∈ chart.frame, number.isFinite = true) ∧
      (∀ number ∈ layout.numbers, number.isFinite = true ∨ number = .infinite false) ∧
      ((∀ number ∈ layout.numbers, number.isFinite = true) ↔
        (figure.size.1.isFinite = true ∧ figure.size.2.isFinite = true) ∧
          ∀ chart ∈ figure.charts, chart.LabelsFit ⟨part.found tree⟩) := by
  obtain ⟨part, among, figure, shown, wellFormed, laidOut⟩ :=
    figure_of_mem_script accepted (Trace.mem_of_mem_attempted drawn)
  have small : Dataset.size ⟨part.found tree⟩ ≤ twoTo 64 :=
    (List.length_filterMap_le _ _).trans (short part among)
  have inRange : ∀ measurement ∈ part.found tree, measurement.check = .ok () := by
    intro measurement found
    obtain ⟨scenario, _, finding⟩ := List.mem_filterMap.mp found
    exact (Scenario.load_found ((Scenario.found?_eq_some_iff _ _ _).mp finding)).2
  exact ⟨part, among, figure, shown, laidOut,
    Figure.frame_isFinite wellFormed small inRange laidOut,
    Figure.numbers_finite_or_infinite wellFormed small inRange laidOut,
    Figure.numbers_isFinite_iff wellFormed small inRange laidOut⟩

/-- A report with one bar, whose label stands above it by an offset. -/
def oneBar (value offset width : Binary64) : Config :=
  let chart : Chart :=
    { title := "Load", kind := .bar, metrics := [.throughput], xLabel := none, yLabel := "",
      labelFormat := ⟨"%d", [.integer]⟩, yMax := none, labelOffset := offset, colors := none }
  ⟨[⟨[⟨"Uniform", .embedded ⟨some value, none, none⟩⟩],
    [(Figure.create ⟨"a.png"⟩ [chart]).withSize width 5]⟩]⟩

theorem oneBar_numbers_are_finite_iff :
    let attempts (config : Config) := (Trace.start []).attempted (Drawing.recording []) none
      (script FileTree.empty config)
    let plain := oneBar 326.5 5 12
    let high := oneBar 1.7e308 1.7e308 12
    plain.check = .ok () ∧ high.check = .ok () ∧
      (∃ layout, Step.draw layout ∈ attempts plain ∧
        ∀ number ∈ layout.numbers, number.isFinite = true) ∧
      ∃ layout, Step.draw layout ∈ attempts high ∧ .infinite false ∈ layout.numbers ∧
        ∀ chart ∈ layout.charts, ∀ number ∈ chart.frame, number.isFinite = true := by
  intro attempts plain high
  have accepted : plain.check = .ok () := by decide +kernel
  have acceptedHigh : high.check = .ok () := by decide +kernel
  have exists_draw (config : Config) (one : ((attempts config).flatMap Step.drawn).length = 1) :
      ∃ layout, Step.draw layout ∈ attempts config := by
    obtain ⟨layout, drawn⟩ := List.length_eq_one_iff.mp one
    have member : layout ∈ (attempts config).flatMap Step.drawn := by
      rw [drawn]
      exact List.mem_singleton_self layout
    obtain ⟨step, among, inside⟩ := List.mem_flatMap.mp member
    cases step with
    | draw other =>
      obtain rfl := List.mem_singleton.mp inside
      exact ⟨layout, among⟩
    | _ => cases inside
  refine ⟨accepted, acceptedHigh, ?_, ?_⟩
  · obtain ⟨layout, drawn⟩ := exists_draw plain (by decide +kernel)
    refine ⟨layout, drawn, ?_⟩
    obtain ⟨part, among, figure, shown, _, _, _, exactly⟩ := drawn_numbers_are_finite_iff
      (Drawing.recording []) none [] FileTree.empty accepted (by decide +kernel) drawn
    obtain rfl := List.mem_singleton.mp among
    obtain rfl := List.mem_singleton.mp shown
    exact exactly.mpr (by decide +kernel)
  · obtain ⟨layout, drawn⟩ := exists_draw high (by decide +kernel)
    obtain ⟨part, among, figure, shown, _, frame, either, exactly⟩ := drawn_numbers_are_finite_iff
      (Drawing.recording []) none [] FileTree.empty acceptedHigh (by decide +kernel) drawn
    obtain rfl := List.mem_singleton.mp among
    obtain rfl := List.mem_singleton.mp shown
    refine ⟨layout, drawn, ?_, frame⟩
    by_contra notInfinite
    have finite : ∀ number ∈ layout.numbers, number.isFinite = true := by
      intro number member
      refine (either number member).resolve_right ?_
      rintro rfl
      exact notInfinite member
    exact absurd (exactly.mp finite) (by decide +kernel)

/-- An infinite width is accepted and handed to the backend, and so is the height of a label that
overflows. -/
theorem accepted_report_may_draw_infinity :
    let numbers (config : Config) :=
      (run (Drawing.recording []) none [] FileTree.empty config).2.backend.map Figure.Layout.numbers
    (oneBar 326.5 5 (.infinite false)).check = .ok () ∧
      numbers (oneBar 326.5 5 (.infinite false)) =
        [[.infinite false, 5, 0, 0.8, 0, 326.5, 0, 331.5]] ∧
      (oneBar 1.7e308 1.7e308 12).check = .ok () ∧
      numbers (oneBar 1.7e308 1.7e308 12) = [[12, 5, 0, 0.8, 0, 1.7e308, 0, .infinite false]] := by
  decide +kernel

end Report

end LoadReport
