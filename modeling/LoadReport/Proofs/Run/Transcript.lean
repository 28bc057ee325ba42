import LoadReport.Report.Run

/-!
# What runs leave behind

A step that completes adds to the trace exactly what it stands for: bytes, events, announced outputs
and layouts. So the trace of a run is read off the steps that it has completed, whatever the faults.

* `Trace.followedBy` — the trace after steps that have all completed.
* `perform_eq_completed_iff` — when a step completes, and what it leaves behind.
* `performAll_completed` — what a whole script leaves behind that has completed.
* `performAll_of_sound` — a script that completes where there are no faults.
* `performAll_stopped_iff` — where a run ends that does not complete.
-/

namespace LoadReport.Report

namespace Line

def bytes (line : Line) : List UInt8 :=
  line.text.toUTF8.data.toList

/-- Whether a line fits behind a number of bytes. -/
def Fits (limit : Option Nat) (written : Nat) (line : Line) : Prop :=
  ∀ bound, limit = some bound → line.bytes.length ≤ bound - written

theorem fits_none (written : Nat) (line : Line) : line.Fits none written := by
  intro bound limited
  cases limited

end Line

namespace Step

def written : Step → List UInt8
  | .print line => line.bytes
  | _ => []

def logged : Step → List Event
  | .log event => [event]
  | _ => []

/-- The outputs that a step announces. -/
def announced : Step → List Path
  | .print line => line.output?.toList
  | _ => []

theorem mem_drawn_iff {step : Step} {layout : Figure.Layout} :
    layout ∈ step.drawn ↔ step = .draw layout := by
  cases step <;> simp [drawn, eq_comm]

/-- Whether no run gets past a step. -/
def ends : Step → Bool
  | .fail _ => true
  | .crash => true
  | _ => false

/-- Whether a step completes once a number of bytes has been written: a line has to fit, and the
backend must not refuse a layout. -/
def Completes (refused : List Path) (limit : Option Nat) (written : Nat) : Step → Prop
  | .log _ => True
  | .print line => line.Fits limit written
  | .draw layout => layout.output ∉ refused
  | .fail _ => False
  | .crash => False

end Step

namespace Trace

/-- The trace after steps that have all completed. -/
def followedBy (trace : Trace (List Figure.Layout)) (steps : List Step) :
    Trace (List Figure.Layout) where
  output := trace.output ++ steps.flatMap Step.written
  events := trace.events ++ steps.flatMap Step.logged
  generated := trace.generated ++ steps.flatMap Step.announced
  backend := trace.backend ++ steps.flatMap Step.drawn

section

variable (trace : Trace (List Figure.Layout)) (steps more : List Step)

@[simp] theorem followedBy_output :
    (trace.followedBy steps).output = trace.output ++ steps.flatMap Step.written := rfl

@[simp] theorem followedBy_events :
    (trace.followedBy steps).events = trace.events ++ steps.flatMap Step.logged := rfl

@[simp] theorem followedBy_generated :
    (trace.followedBy steps).generated = trace.generated ++ steps.flatMap Step.announced := rfl

@[simp] theorem followedBy_backend :
    (trace.followedBy steps).backend = trace.backend ++ steps.flatMap Step.drawn := rfl

@[simp] theorem followedBy_nil : trace.followedBy [] = trace := by
  simp [followedBy]

theorem followedBy_append :
    trace.followedBy (steps ++ more) = (trace.followedBy steps).followedBy more := by
  simp [followedBy, List.append_assoc]

end

section

variable (refused : List Path) (limit : Option Nat) (trace : Trace (List Figure.Layout))

theorem emit_of_fits {output : List UInt8} {line : Line} (fits : line.Fits limit output.length) :
    emit limit output line.text = (.ok (), output ++ line.bytes) := by
  cases limit with
  | none => rfl
  | some bound => exact if_pos (fits bound rfl)

theorem emit_of_not_fits {output : List UInt8} {line : Line}
    (tooLong : ¬ line.Fits limit output.length) :
    ∃ room < line.bytes.length, emit limit output line.text =
      (.error (Failure.ofCause (.file .brokenPipe)), output ++ line.bytes.take room) := by
  cases limit with
  | none => exact absurd (line.fits_none output.length) tooLong
  | some bound =>
    have long : ¬ line.bytes.length ≤ bound - output.length := by
      intro short
      apply tooLong
      intro other limited
      cases limited
      exact short
    exact ⟨bound - output.length, Nat.lt_of_not_le long, if_neg long⟩

theorem perform_eq_completed_iff (step : Step) (next : Trace (List Figure.Layout)) :
    trace.perform (Drawing.recording refused) limit step = (.completed, next) ↔
      step.Completes refused limit trace.output.length ∧ next = trace.followedBy [step] := by
  cases step with
  | log event =>
    simp [perform, Step.Completes, followedBy, Step.written, Step.logged, Step.announced, Step.drawn,
      eq_comm]
  | print line =>
    by_cases fits : line.Fits limit trace.output.length
    · simp [perform, emit_of_fits limit fits, Step.Completes, fits, followedBy, Step.written,
        Step.logged, Step.announced, Step.drawn, eq_comm]
    · obtain ⟨room, _, emitted⟩ := emit_of_not_fits limit fits
      simp [perform, emitted, Step.Completes, fits]
  | draw layout =>
    by_cases refusal : layout.output ∈ refused
    · simp [perform, Drawing.recording, refusal, Step.Completes]
    · simp [perform, Drawing.recording, refusal, Step.Completes, followedBy, Step.written,
        Step.logged, Step.announced, Step.drawn, eq_comm]
  | fail failure => simp [perform, Step.Completes]
  | crash => simp [perform, Step.Completes]

end

/-! ## Whole scripts -/

section

variable {σ : Type} (backend : Drawing.Backend σ) (limit : Option Nat) (trace : Trace σ)

theorem performAll_cons (step : Step) :
    (∃ next, trace.perform backend limit step = (.completed, next) ∧
        ∀ rest, trace.performAll backend limit (step :: rest) = next.performAll backend limit rest) ∨
      (trace.perform backend limit step).1 ≠ .completed ∧
        ∀ rest, trace.performAll backend limit (step :: rest) = trace.perform backend limit step := by
  rcases performed : trace.perform backend limit step with ⟨ending, next⟩
  cases ending with
  | completed => exact .inl ⟨next, rfl, fun rest => by simp only [performAll, performed]⟩
  | failed failure => exact .inr ⟨by simp, fun rest => by simp only [performAll, performed]⟩
  | crashed => exact .inr ⟨by simp, fun rest => by simp only [performAll, performed]⟩

theorem performAll_append_of_completed {first : List Step} {reached : Trace σ}
    (completed : trace.performAll backend limit first = (.completed, reached)) (second : List Step) :
    trace.performAll backend limit (first ++ second) = reached.performAll backend limit second := by
  rw [performAll_append, completed]

theorem performAll_cons_of_alike {other : Drawing.Backend σ} {otherLimit : Option Nat} {step : Step}
    (alike : trace.perform backend limit step = trace.perform other otherLimit step)
    (rest : List Step) :
    (∃ next, trace.perform backend limit step = (.completed, next) ∧
        trace.performAll backend limit (step :: rest) = next.performAll backend limit rest ∧
        trace.performAll other otherLimit (step :: rest) = next.performAll other otherLimit rest) ∨
      trace.performAll backend limit (step :: rest) =
        trace.performAll other otherLimit (step :: rest) := by
  rcases performed : trace.perform backend limit step with ⟨ending, next⟩
  have performedOther := alike.symm.trans performed
  cases ending with
  | completed =>
    left
    exact ⟨next, rfl, by simp only [performAll, performed], by simp only [performAll, performedOther]⟩
  | failed failure => right; simp only [performAll, performed, performedOther]
  | crashed => right; simp only [performAll, performed, performedOther]

theorem perform_crashed_iff (step : Step) :
    (trace.perform backend limit step).1 = .crashed ↔ step = .crash := by
  cases step with
  | log event => simp [perform]
  | print line =>
    rcases emitted : emit limit trace.output line.text with ⟨outcome, output⟩
    cases outcome <;> simp [perform, emitted]
  | draw layout =>
    rcases drawn : backend.draw trace.backend layout with ⟨outcome, next⟩
    cases outcome <;> simp [perform, drawn]
  | fail failure => simp [perform]
  | crash => simp [perform]

/-- A run ends without completing exactly if it completes everything in front of some step, and that
step ends it in the same way. -/
theorem performAll_stopped_iff {ending : Ending} (stops : ending ≠ .completed) (steps : List Step) :
    (trace.performAll backend limit steps).1 = ending ↔
      ∃ before step after reached, steps = before ++ step :: after ∧
        trace.performAll backend limit before = (.completed, reached) ∧
        (reached.perform backend limit step).1 = ending := by
  induction steps generalizing trace with
  | nil => simp [performAll, stops.symm]
  | cons first rest inductionHypothesis =>
    obtain ⟨next, performed, onward⟩ | ⟨stopped, halted⟩ := performAll_cons backend limit trace first
    -- The first step completes, so that it stands in front of the one that ends the run.
    · rw [onward, inductionHypothesis]
      constructor
      · intro ends
        obtain ⟨before, step, after, reached, rfl, completed, ended⟩ := ends
        exact ⟨first :: before, step, after, reached, rfl, by rw [onward, completed], ended⟩
      · intro ends
        obtain ⟨before, step, after, reached, split, completed, ended⟩ := ends
        cases before with
        | nil =>
          obtain ⟨rfl, rfl⟩ := List.cons.inj split
          cases completed
          rw [performed] at ended
          exact absurd ended.symm stops
        | cons head before =>
          obtain ⟨rfl, rfl⟩ := List.cons.inj split
          rw [onward] at completed
          exact ⟨before, step, after, reached, rfl, completed, ended⟩
    -- The run ends with the first step, so that nothing can stand in front of it.
    · rw [halted]
      constructor
      · intro ended
        exact ⟨[], first, rest, trace, rfl, rfl, ended⟩
      · intro ends
        obtain ⟨before, step, after, reached, split, completed, ended⟩ := ends
        cases before with
        | nil =>
          obtain ⟨rfl, rfl⟩ := List.cons.inj split
          cases completed
          exact ended
        | cons head before =>
          obtain ⟨rfl, rfl⟩ := List.cons.inj split
          rw [halted] at completed
          rw [completed] at stopped
          exact absurd rfl stopped

/-- A run crashes exactly if it completes everything before a crash in its script. -/
theorem performAll_crashed_iff (steps : List Step) :
    (trace.performAll backend limit steps).1 = .crashed ↔
      ∃ before after, steps = before ++ .crash :: after ∧
        (trace.performAll backend limit before).1 = .completed := by
  rw [performAll_stopped_iff backend limit trace (by simp) steps]
  simp only [perform_crashed_iff]
  constructor
  · intro crash
    obtain ⟨before, _, after, reached, split, completed, rfl⟩ := crash
    exact ⟨before, after, split, by rw [completed]⟩
  · intro crash
    obtain ⟨before, after, split, completed⟩ := crash
    exact ⟨before, .crash, after, _, split, Prod.ext completed rfl, rfl⟩

theorem ends_of_perform_completed {step : Step}
    (completed : (trace.perform backend limit step).1 = .completed) : step.ends = false := by
  cases step with
  | fail failure => cases completed
  | crash => cases completed
  | _ => rfl

theorem ends_of_performAll_completed (steps : List Step)
    (completed : (trace.performAll backend limit steps).1 = .completed) :
    ∀ step ∈ steps, step.ends = false := by
  induction steps generalizing trace with
  | nil => simp
  | cons step rest inductionHypothesis =>
    obtain ⟨next, performed, onward⟩ | ⟨stopped, halted⟩ := performAll_cons backend limit trace step
    · rw [onward] at completed
      rw [List.forall_mem_cons]
      refine ⟨ends_of_perform_completed backend limit trace ?_, inductionHypothesis next completed⟩
      rw [performed]
    · rw [halted] at completed
      exact absurd completed stopped

end

theorem performAll_completed (refused : List Path) (limit : Option Nat)
    (trace next : Trace (List Figure.Layout)) (steps : List Step)
    (completed : trace.performAll (Drawing.recording refused) limit steps = (.completed, next)) :
    next = trace.followedBy steps := by
  induction steps generalizing trace with
  | nil => cases completed; simp
  | cons step rest inductionHypothesis =>
    obtain ⟨middle, performed, onward⟩ | ⟨stopped, halted⟩ :=
      performAll_cons (Drawing.recording refused) limit trace step
    · rw [onward] at completed
      obtain ⟨_, rfl⟩ := (perform_eq_completed_iff refused limit trace step middle).mp performed
      rw [inductionHypothesis _ completed]
      exact (followedBy_append trace [step] rest).symm
    · rw [← halted rest, completed] at stopped
      exact absurd rfl stopped

/-- Nothing stands in the way of a script that does not end itself. -/
theorem performAll_of_sound (trace : Trace (List Figure.Layout)) {steps : List Step}
    (sound : ∀ step ∈ steps, step.ends = false) :
    trace.performAll (Drawing.recording []) none steps = (.completed, trace.followedBy steps) := by
  induction steps generalizing trace with
  | nil => simp [performAll]
  | cons step rest inductionHypothesis =>
    rw [List.forall_mem_cons] at sound
    obtain ⟨goesOn, others⟩ := sound
    have completes : step.Completes [] none trace.output.length := by
      cases step with
      | log event => trivial
      | print line => exact line.fits_none _
      | draw layout => exact List.not_mem_nil
      | fail failure => cases goesOn
      | crash => cases goesOn
    have performed := (perform_eq_completed_iff [] none trace step _).mpr ⟨completes, rfl⟩
    simp only [performAll, performed, inductionHypothesis _ others, ← followedBy_append,
      List.singleton_append]

end Trace

end LoadReport.Report
