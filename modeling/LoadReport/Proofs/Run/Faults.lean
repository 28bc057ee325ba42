import LoadReport.Proofs.Run.Transcript

/-!
# Faults cut runs short

The same script is run twice on a recording backend: once with outputs that are refused and a console
of limited size, once without. Step by step the two runs agree until a fault strikes; from there on the
one stands still while the other only adds to what it has left behind.
-/

namespace LoadReport.Report

namespace Trace

/-- Whatever has been written, logged and drawn is the beginning of what there is in another trace. -/
structure Precedes (first second : Trace (List Figure.Layout)) : Prop where
  output : first.output <+: second.output
  events : first.events <+: second.events
  drawn : first.backend <+: second.backend

namespace Precedes

theorem refl (trace : Trace (List Figure.Layout)) : trace.Precedes trace :=
  ⟨List.prefix_rfl, List.prefix_rfl, List.prefix_rfl⟩

theorem trans {first second third : Trace (List Figure.Layout)} (earlier : first.Precedes second)
    (later : second.Precedes third) : first.Precedes third :=
  ⟨earlier.output.trans later.output, earlier.events.trans later.events,
    earlier.drawn.trans later.drawn⟩

end Precedes

section

variable (refused : List Path) (limit : Option Nat) (trace : Trace (List Figure.Layout))

theorem precedes_perform (step : Step) :
    trace.Precedes (trace.perform (Drawing.recording refused) limit step).2 := by
  cases step with
  | log event => exact ⟨List.prefix_rfl, List.prefix_append _ _, List.prefix_rfl⟩
  | print line =>
    by_cases fits : line.Fits limit trace.output.length
    · simp only [perform, emit_of_fits limit fits]
      exact ⟨List.prefix_append _ _, List.prefix_rfl, List.prefix_rfl⟩
    · obtain ⟨room, _, emitted⟩ := emit_of_not_fits limit fits
      simp only [perform, emitted]
      exact ⟨List.prefix_append _ _, List.prefix_rfl, List.prefix_rfl⟩
  | draw layout =>
    by_cases refusal : layout.output ∈ refused
    · simp only [perform, Drawing.recording, refusal, if_true]
      exact Precedes.refl _
    · simp only [perform, Drawing.recording, refusal, if_false]
      exact ⟨List.prefix_rfl, List.prefix_rfl, List.prefix_append _ _⟩
  | fail failure => exact Precedes.refl _
  | crash => exact Precedes.refl _

theorem precedes_performAll (steps : List Step) :
    trace.Precedes (trace.performAll (Drawing.recording refused) limit steps).2 := by
  induction steps generalizing trace with
  | nil => exact Precedes.refl _
  | cons step rest inductionHypothesis =>
    have first := precedes_perform refused limit trace step
    obtain ⟨next, performed, onward⟩ | ⟨_, halted⟩ :=
      performAll_cons (Drawing.recording refused) limit trace step
    · rw [performed] at first
      rw [onward]
      exact first.trans (inductionHypothesis next)
    · rw [halted]
      exact first

theorem perform_precedes_performAll (step : Step) (rest : List Step) :
    (trace.perform (Drawing.recording refused) limit step).2.Precedes
      (trace.performAll (Drawing.recording refused) limit (step :: rest)).2 := by
  obtain ⟨next, performed, onward⟩ | ⟨_, halted⟩ :=
    performAll_cons (Drawing.recording refused) limit trace step
  · rw [performed, onward]
    exact precedes_performAll refused limit next rest
  · rw [halted]
    exact Precedes.refl _

theorem perform_eq_or_cut (step : Step) :
    trace.perform (Drawing.recording refused) limit step =
        trace.perform (Drawing.recording []) none step ∨
      (trace.perform (Drawing.recording refused) limit step).1 ≠ .completed ∧
        (trace.perform (Drawing.recording refused) limit step).2.Precedes
          (trace.perform (Drawing.recording []) none step).2 := by
  cases step with
  | log event => exact .inl rfl
  | print line =>
    have free := line.fits_none trace.output.length
    by_cases fits : line.Fits limit trace.output.length
    · left
      simp only [perform, emit_of_fits limit fits, emit_of_fits none free]
    · right
      obtain ⟨room, _, emitted⟩ := emit_of_not_fits limit fits
      simp only [perform, emitted, emit_of_fits none free]
      refine ⟨by simp, ?_, List.prefix_rfl, List.prefix_rfl⟩
      exact (List.prefix_append_right_inj trace.output).mpr (List.take_prefix room line.bytes)
  | draw layout =>
    by_cases refusal : layout.output ∈ refused
    · right
      simp only [perform, Drawing.recording, refusal, if_true, List.not_mem_nil, if_false]
      exact ⟨by simp, List.prefix_rfl, List.prefix_rfl, List.prefix_append _ _⟩
    · left
      simp only [perform, Drawing.recording, refusal, List.not_mem_nil, if_false]
  | fail failure => exact .inl rfl
  | crash => exact .inl rfl

theorem performAll_precedes (steps : List Step) :
    (trace.performAll (Drawing.recording refused) limit steps).2.Precedes
      (trace.performAll (Drawing.recording []) none steps).2 := by
  -- The two runs go through the same traces up to the step at which a fault strikes.
  induction steps generalizing trace with
  | nil => exact Precedes.refl _
  | cons step rest inductionHypothesis =>
    obtain same | ⟨cutShort, precedes⟩ := perform_eq_or_cut refused limit trace step
    · obtain ⟨next, _, onward, onwardFree⟩ | ended :=
        performAll_cons_of_alike _ limit trace same rest
      · rw [onward, onwardFree]
        exact inductionHypothesis next
      · rw [ended]
        exact Precedes.refl _
    · obtain ⟨next, performed, _⟩ | ⟨_, halted⟩ :=
        performAll_cons (Drawing.recording refused) limit trace step
      · rw [performed] at cutShort
        exact absurd rfl cutShort
      · rw [halted]
        exact precedes.trans (perform_precedes_performAll [] none trace step rest)

end

/-! ## Runs that no fault strikes -/

/-- The steps that a run comes to: those that it completes, and the one that stops it. -/
def attempted {σ : Type} (backend : Drawing.Backend σ) (limit : Option Nat) (trace : Trace σ) :
    List Step → List Step
  | [] => []
  | step :: rest =>
    match trace.perform backend limit step with
    | (.completed, next) => step :: next.attempted backend limit rest
    | _ => [step]

/-- No fault strikes at steps: none of them draws what is refused, and all that they write fits behind
what has been written. -/
structure Unhindered (refused : List Path) (limit : Option Nat) (written : Nat)
    (steps : List Step) : Prop where
  accepted : ∀ layout ∈ steps.flatMap Step.drawn, layout.output ∉ refused
  fits : ∀ bound ∈ limit, written + (steps.flatMap Step.written).length ≤ bound

namespace Unhindered

variable {refused : List Path} {limit : Option Nat} {written : Nat} {step : Step}
  {rest : List Step}

theorem head (unhindered : Unhindered refused limit written (step :: rest)) :
    Unhindered refused limit written [step] := by
  obtain ⟨accepted, fits⟩ := unhindered
  rw [List.flatMap_cons] at accepted fits
  refine ⟨?_, ?_⟩
  · intro layout member
    rw [List.flatMap_singleton] at member
    exact accepted layout (List.mem_append_left _ member)
  · intro bound limited
    have room := fits bound limited
    rw [List.length_append] at room
    rw [List.flatMap_singleton]
    omega

theorem tail (unhindered : Unhindered refused limit written (step :: rest)) :
    Unhindered refused limit (written + step.written.length) rest := by
  obtain ⟨accepted, fits⟩ := unhindered
  rw [List.flatMap_cons] at accepted fits
  refine ⟨?_, ?_⟩
  · intro layout member
    exact accepted layout (List.mem_append_right _ member)
  · intro bound limited
    have room := fits bound limited
    rw [List.length_append] at room
    omega

end Unhindered

section

variable (refused : List Path) (limit : Option Nat) (trace : Trace (List Figure.Layout))

theorem attempted_cons {σ : Type} (backend : Drawing.Backend σ) (trace : Trace σ) (step : Step)
    (rest : List Step) :
    ∃ others, trace.attempted backend limit (step :: rest) = step :: others ∧
      ∀ next, trace.perform backend limit step = (.completed, next) →
        others = next.attempted backend limit rest := by
  rcases performed : trace.perform backend limit step with ⟨ending, next⟩
  cases ending with
  | completed =>
    refine ⟨next.attempted backend limit rest, by simp only [attempted, performed], ?_⟩
    intro other completed
    cases completed
    rfl
  | failed failure => exact ⟨[], by simp only [attempted, performed], by simp⟩
  | crashed => exact ⟨[], by simp only [attempted, performed], by simp⟩

theorem perform_of_unhindered {step : Step}
    (unhindered : Unhindered refused limit trace.output.length [step]) :
    trace.perform (Drawing.recording refused) limit step =
      trace.perform (Drawing.recording []) none step := by
  cases step with
  | log event => rfl
  | print line =>
    have fits : line.Fits limit trace.output.length := by
      intro bound limited
      have room := unhindered.fits bound limited
      rw [List.flatMap_singleton, Step.written] at room
      omega
    have free := line.fits_none trace.output.length
    simp only [perform, emit_of_fits limit fits, emit_of_fits none free]
  | draw layout =>
    have accepted := unhindered.accepted layout (by rw [List.flatMap_singleton]; exact List.mem_cons_self)
    simp only [perform, Drawing.recording, accepted, List.not_mem_nil, if_false]
  | fail failure => rfl
  | crash => rfl

theorem performAll_of_unhindered (steps : List Step)
    (unhindered : Unhindered refused limit trace.output.length
      (trace.attempted (Drawing.recording refused) limit steps)) :
    trace.performAll (Drawing.recording refused) limit steps =
      trace.performAll (Drawing.recording []) none steps := by
  induction steps generalizing trace with
  | nil => rfl
  | cons step rest inductionHypothesis =>
    obtain ⟨others, attempts, continued⟩ :=
      attempted_cons limit (Drawing.recording refused) trace step rest
    rw [attempts] at unhindered
    have same := perform_of_unhindered refused limit trace unhindered.head
    obtain ⟨next, performed, onward, onwardFree⟩ | ended :=
      performAll_cons_of_alike _ limit trace same rest
    -- What remains has to fit behind what the first step has written.
    · have added := ((perform_eq_completed_iff refused limit trace step next).mp performed).2
      have written : next.output.length = trace.output.length + step.written.length := by
        simp [added]
      rw [onward, onwardFree]
      apply inductionHypothesis next
      rw [← continued next performed, written]
      exact unhindered.tail
    · exact ended

end

end Trace

/-- The steps that a run of a report comes to. -/
def attempts (refused : List Path) (limit : Option Nat) (tree : FileTree) (config : Config) :
    List Step :=
  (Trace.start []).attempted (Drawing.recording refused) limit (script tree config)

/-- With refused outputs and a console of limited size, a run writes, draws and logs the beginning of
what it does without; and if no fault strikes at what it attempts, the two runs are the same. -/
theorem faults_only_cut_runs_short (refused : List Path) (limit : Option Nat) (tree : FileTree)
    (config : Config) :
    let cut := run (Drawing.recording refused) limit [] tree config
    let free := run (Drawing.recording []) none [] tree config
    cut.2.output <+: free.2.output ∧ cut.2.backend <+: free.2.backend ∧
      cut.2.events <+: free.2.events ∧
      (Trace.Unhindered refused limit 0 (attempts refused limit tree config) → cut = free) := by
  have precedes := (Trace.start []).performAll_precedes refused limit (script tree config)
  refine ⟨precedes.output, precedes.drawn, precedes.events, ?_⟩
  intro unhindered
  exact (Trace.start []).performAll_of_unhindered refused limit (script tree config) unhindered

/-- A report of two images, for which the console needs 32 bytes. -/
def twoImages : Config :=
  let chart : Chart :=
    { title := "Load", kind := .bar, metrics := [.throughput], xLabel := none, yLabel := "",
      labelFormat := ⟨"%d", [.integer]⟩, yMax := none, labelOffset := 0, colors := none }
  ⟨[⟨[⟨"Uniform", .embedded ⟨some 326.5, none, none⟩⟩],
    [.create ⟨"a.png"⟩ [chart], .create ⟨"b.png"⟩ [chart]]⟩]⟩

theorem twoImages_are_drawn_where_they_just_fit :
    let refused : List Path := [⟨"c.png"⟩]
    Trace.Unhindered refused (some 32) 0 (attempts refused (some 32) FileTree.empty twoImages) ∧
      run (Drawing.recording refused) (some 32) [] FileTree.empty twoImages =
        run (Drawing.recording []) none [] FileTree.empty twoImages := by
  have unhindered : Trace.Unhindered [⟨"c.png"⟩] (some 32) 0
      (attempts [⟨"c.png"⟩] (some 32) FileTree.empty twoImages) :=
    ⟨by decide +kernel, by decide +kernel⟩
  obtain ⟨_, _, _, same⟩ :=
    faults_only_cut_runs_short [⟨"c.png"⟩] (some 32) FileTree.empty twoImages
  exact ⟨unhindered, same unhindered⟩

end LoadReport.Report
