import LoadReport.Proofs.Run.Overwriting

/-!
# Reports made of two parts

A console without a limit and a backend that only keeps layouts look at nothing that has been left
behind before, so that steps do the same behind any trace. Hence sections are independent of the
sections before them: a report of two lists of sections is the report of the first list, with that of
the second behind it once the first is completed.
-/

namespace LoadReport

open Outcomes

theorem Config.check_append {first second : List Section}
    (accepted : Config.check ⟨first ++ second⟩ = .ok ()) :
    Config.check ⟨first⟩ = .ok () ∧ Config.check ⟨second⟩ = .ok () := by
  simp only [Config.check_eq_ok_iff] at accepted ⊢
  obtain ⟨sections, outputs⟩ := accepted
  simp only [List.forall_mem_append] at sections
  simp only [Config.outputs, List.flatMap_append, List.pairwise_append] at outputs
  exact ⟨⟨sections.1, outputs.1⟩, ⟨sections.2, outputs.2.1⟩⟩

namespace Report

theorem script_append (tree : FileTree) {first second : List Section}
    (accepted : Config.check ⟨first ++ second⟩ = .ok ()) :
    script tree ⟨first ++ second⟩ = script tree ⟨first⟩ ++ script tree ⟨second⟩ := by
  obtain ⟨firstAccepted, secondAccepted⟩ := Config.check_append accepted
  rw [script_of_ok accepted, script_of_ok firstAccepted, script_of_ok secondAccepted,
    List.flatMap_append]

/-- A step of an accepted report is a step of a section, which is well-formed. -/
theorem exists_section_of_mem_script {tree : FileTree} {config : Config}
    (accepted : config.check = .ok ()) {step : Step} (member : step ∈ script tree config) :
    ∃ part ∈ config.sections, part.WellFormed ∧ step ∈ sectionScript tree part := by
  rw [script_of_ok accepted, List.mem_flatMap] at member
  obtain ⟨part, among, inside⟩ := member
  exact ⟨part, among, ((config.check_eq_ok_iff).mp accepted).sections part among, inside⟩

namespace Trace

/-- What two traces have left behind, one after the other. -/
def joined (first second : Trace (List Figure.Layout)) : Trace (List Figure.Layout) where
  output := first.output ++ second.output
  events := first.events ++ second.events
  generated := first.generated ++ second.generated
  backend := first.backend ++ second.backend

section

variable (refused : List Path) (before trace : Trace (List Figure.Layout))

@[simp] theorem joined_start : before.joined (start []) = before := by
  simp [joined, start]

/-- A step does the same behind any trace, if the console takes everything. -/
theorem perform_joined (step : Step) :
    (before.joined trace).perform (Drawing.recording refused) none step =
      ((trace.perform (Drawing.recording refused) none step).1,
        before.joined (trace.perform (Drawing.recording refused) none step).2) := by
  cases step with
  | log event => simp [perform, joined]
  | print line => simp [perform, emit, joined]
  | draw layout =>
    by_cases refusal : layout.output ∈ refused
    · simp [perform, Drawing.recording, refusal, joined]
    · simp [perform, Drawing.recording, refusal, joined]
  | fail failure => rfl
  | crash => rfl

theorem performAll_joined (steps : List Step) :
    (before.joined trace).performAll (Drawing.recording refused) none steps =
      ((trace.performAll (Drawing.recording refused) none steps).1,
        before.joined (trace.performAll (Drawing.recording refused) none steps).2) := by
  induction steps generalizing trace with
  | nil => rfl
  | cons step rest inductionHypothesis =>
    have moved := perform_joined refused before trace step
    rcases performed : trace.perform (Drawing.recording refused) none step with ⟨ending, next⟩
    rw [performed] at moved
    cases ending with
    | completed => simp only [performAll, performed, moved, inductionHypothesis]
    | failed failure => simp only [performAll, performed, moved]
    | crashed => simp only [performAll, performed, moved]

/-- Steps do the same behind any trace as they do on their own. -/
theorem performAll_behind (steps : List Step) :
    let alone := (start []).performAll (Drawing.recording refused) none steps
    before.performAll (Drawing.recording refused) none steps =
      (alone.1, before.joined alone.2) := by
  have joined := performAll_joined refused before (start []) steps
  rwa [joined_start] at joined

end

end Trace

theorem run_append (refused : List Path) {tree : FileTree} {first second : List Section}
    (accepted : Config.check ⟨first ++ second⟩ = .ok ()) :
    run (Drawing.recording refused) none [] tree ⟨first ++ second⟩ =
      match run (Drawing.recording refused) none [] tree ⟨first⟩ with
      | (.completed, trace) =>
        let onward := run (Drawing.recording refused) none [] tree ⟨second⟩
        (onward.1, trace.joined onward.2)
      | stopped => stopped := by
  simp only [run, script_append tree accepted, Trace.performAll_append]
  rcases (Trace.start []).performAll (Drawing.recording refused) none (script tree ⟨first⟩)
    with ⟨ending, trace⟩
  cases ending with
  | completed =>
    -- The second part starts behind the first, and not with an empty trace.
    exact trace.performAll_behind refused (script tree ⟨second⟩)
  | failed failure => rfl
  | crashed => rfl

/-- The parts of an accepted report are accepted. If the first is completed, the whole goes on with
what the second does on its own, to whatever end; if not, the whole ends with the first. -/
theorem sections_compose (refused : List Path) (tree : FileTree) (first second : List Section)
    (accepted : Config.check ⟨first ++ second⟩ = .ok ()) :
    let report (sections : List Section) := run (Drawing.recording refused) none [] tree ⟨sections⟩
    Config.check ⟨first⟩ = .ok () ∧ Config.check ⟨second⟩ = .ok () ∧
      ((report first).1 = .completed →
        report (first ++ second) = ((report second).1, (report first).2.joined (report second).2)) ∧
      ((report first).1 ≠ .completed → report (first ++ second) = report first) := by
  intro report
  obtain ⟨firstAccepted, secondAccepted⟩ := Config.check_append accepted
  have whole : report (first ++ second) = match report first with
      | (.completed, trace) => ((report second).1, trace.joined (report second).2)
      | stopped => stopped := run_append refused accepted
  refine ⟨firstAccepted, secondAccepted, ?_, ?_⟩
  · intro completed
    rcases ended : report first with ⟨ending, trace⟩
    rw [ended] at whole completed
    obtain rfl : ending = .completed := completed
    exact whole
  · intro stopped
    rcases ended : report first with ⟨ending, trace⟩
    rw [ended] at whole stopped
    cases ending with
    | completed => exact absurd rfl stopped
    | failed failure => exact whole
    | crashed => exact whole

theorem refusal_in_second_section_keeps_first :
    let first := (barTo [⟨"a.png"⟩]).sections
    let second := (barTo [⟨"b.png"⟩, ⟨"c.png"⟩]).sections
    let report (sections : List Section) :=
      run (Drawing.recording [⟨"c.png"⟩]) none [] FileTree.empty ⟨sections⟩
    Config.check ⟨first ++ second⟩ = .ok () ∧ (report first).1 = .completed ∧
      (report second).1 = .failed ⟨[.drawFigure ⟨"c.png"⟩], .drawingRefused⟩ ∧
      report (first ++ second) = ((report second).1, (report first).2.joined (report second).2) := by
  intro first second report
  have accepted : Config.check ⟨first ++ second⟩ = .ok () := by decide +kernel
  have completed : (report first).1 = .completed := by decide +kernel
  obtain ⟨_, _, onward, _⟩ := sections_compose [⟨"c.png"⟩] FileTree.empty first second accepted
  exact ⟨accepted, completed, by decide +kernel, onward completed⟩

end Report

end LoadReport
