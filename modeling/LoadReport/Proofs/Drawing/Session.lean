import LoadReport.Drawing.Backend

/-!
# What drawing sessions do

Whatever calls raise, a session makes the calls that are planned for a layout in order, up to the first
that raises (`Performs`). What it takes to be loaded and made is what those of its calls have brought
about that returned (`Sound`), so that a drawing goes on from where a failed one has got to.
-/

namespace LoadReport.Drawing

/-! ## Calls that return -/

namespace Fault

variable (fault : Fault)

/-- Calls that are made behind others all return. -/
def Spares (made : List Call) : List Call → Prop
  | [] => True
  | call :: rest => fault made call = false ∧ Spares (made ++ [call]) rest

/-- Those of the calls made behind others that return. -/
def returned (made : List Call) : List Call → List Call
  | [] => []
  | call :: rest =>
    if fault made call then returned (made ++ [call]) rest
    else call :: returned (made ++ [call]) rest

variable {fault}

theorem spares_append (made first second : List Call) :
    fault.Spares made (first ++ second) ↔
      fault.Spares made first ∧ fault.Spares (made ++ first) second := by
  induction first generalizing made with
  | nil => simp [Spares]
  | cons call rest inductionHypothesis =>
    rw [List.cons_append, Spares, Spares, inductionHypothesis, List.append_assoc,
      List.singleton_append, and_assoc]

theorem Spares.call {made before after : List Call} {call : Call}
    (spared : fault.Spares made (before ++ call :: after)) : fault (made ++ before) call = false :=
  ((spares_append made before (call :: after)).mp spared).2.1

theorem Spares.front {made front calls : List Call} (spared : fault.Spares made calls)
    (first : front <+: calls) : fault.Spares made front := by
  obtain ⟨rest, rfl⟩ := first
  exact ((spares_append made front rest).mp spared).1

theorem returned_append (made first second : List Call) :
    fault.returned made (first ++ second) =
      fault.returned made first ++ fault.returned (made ++ first) second := by
  induction first generalizing made with
  | nil => simp [returned]
  | cons call rest inductionHypothesis =>
    simp only [List.cons_append, returned, inductionHypothesis, List.append_assoc, List.nil_append]
    split
    · rfl
    · rfl

theorem returned_of_spares {made calls : List Call} (spared : fault.Spares made calls) :
    fault.returned made calls = calls := by
  induction calls generalizing made with
  | nil => rfl
  | cons call rest inductionHypothesis =>
    obtain ⟨returns, others⟩ := spared
    simp [returned, returns, inductionHypothesis others]

end Fault

/-! ## Performing planned calls -/

namespace Session

/-- The session after calls that have all returned. -/
def followedBy (session : Session) (calls : List Call) : Session where
  made := session.made ++ calls
  progress := calls.foldl Progress.after session.progress

/-- What comes of planned calls: all of them return, or they are made up to the first that raises,
which is made as well but brings nothing about. -/
inductive Performs (fault : Fault) (session : Session) :
    List Call → Except Failure Unit × Session → Prop where
  | completed {calls : List Call} (spared : fault.Spares session.made calls) :
      Performs fault session calls (.ok (), session.followedBy calls)
  | raised {before after : List Call} {call : Call} (spared : fault.Spares session.made before)
      (raises : fault (session.made ++ before) call = true) :
      Performs fault session (before ++ call :: after)
        (.error (Failure.ofCause .drawingRaised),
          { session.followedBy before with made := session.made ++ (before ++ [call]) })

variable (fault : Fault) (session : Session)

theorem performs (calls : List Call) :
    Performs fault session calls (session.perform fault calls) := by
  induction calls generalizing session with
  | nil =>
    have same : session.followedBy [] = session := by simp [followedBy]
    have nothing : Performs fault session [] (.ok (), session.followedBy []) := .completed trivial
    rwa [same] at nothing
  | cons call rest inductionHypothesis =>
    cases raises : fault session.made call with
    | true =>
      have nothing : fault.Spares session.made [] := trivial
      have made : fault (session.made ++ []) call = true := by rwa [List.append_nil]
      have ended : Performs fault session ([] ++ call :: rest) _ := .raised nothing made
      simpa [perform, raises, followedBy] using ended
    | false =>
      -- The call returns, and the others are performed behind it.
      let next : Session :=
        { made := session.made ++ [call], progress := session.progress.after call }
      have onward : session.perform fault (call :: rest) = next.perform fault rest := by
        simp [perform, raises, next]
      have others := inductionHypothesis next
      rw [onward]
      generalize next.perform fault rest = ended at others ⊢
      cases others with
      | completed spared =>
        have whole : fault.Spares session.made (call :: rest) := ⟨raises, spared⟩
        simpa [followedBy, next] using Performs.completed whole
      | @raised before after other spared raisesOther =>
        have front : fault.Spares session.made (call :: before) := ⟨raises, spared⟩
        have behind : fault (session.made ++ call :: before) other = true := by
          simpa [next] using raisesOther
        have ended : Performs fault session (call :: before ++ other :: after) _ :=
          .raised front behind
        simpa [followedBy, next] using ended

theorem draw_performs (layout : Figure.Layout) :
    Performs fault session (session.progress.plan layout) (session.draw fault layout) :=
  session.performs fault _

theorem draw_without_fault (layout : Figure.Layout) :
    session.draw Fault.none layout = (.ok (), session.followedBy (session.progress.plan layout)) := by
  have performed := draw_performs Fault.none session layout
  generalize session.draw Fault.none layout = ended at performed
  generalize session.progress.plan layout = planned at performed ⊢
  cases performed with
  | completed _ => rfl
  | raised _ raises => cases raises

/-- The calls that come of planned ones: the first of these, up to the last or to one that raises. -/
structure Makes (fault : Fault) (session : Session) (planned calls : List Call)
    (ended : Except Failure Unit × Session) : Prop where
  made : ended.2.made = session.made ++ calls
  first : calls <+: planned
  /-- Behind a call that raises, no other is made. -/
  spared : ∀ before call after, calls = before ++ call :: after → fault.Spares session.made before
  stopped : calls = planned ∨
    ∃ before last, calls = before ++ [last] ∧ fault (session.made ++ before) last = true
  completed : ended.1 = .ok () → calls = planned ∧ fault.Spares session.made calls

section

variable {fault session} {planned : List Call} {ended : Except Failure Unit × Session}

theorem Performs.makes (performed : Performs fault session planned ended) :
    ∃ calls, Makes fault session planned calls ended := by
  cases performed with
  | completed spared =>
    refine ⟨planned, rfl, List.prefix_rfl, ?_, .inl rfl, fun _ => ⟨rfl, spared⟩⟩
    intro before call after split
    exact spared.front ⟨call :: after, split.symm⟩
  | @raised front behind last spared raises =>
    refine ⟨front ++ [last], rfl, ⟨behind, by simp⟩, ?_, .inr ⟨front, last, rfl, raises⟩, nofun⟩
    intro before call after split
    have shorter : front = before ++ (call :: after).dropLast := by
      rw [← List.dropLast_append_of_ne_nil (List.cons_ne_nil call after), ← split,
        List.dropLast_concat]
    exact spared.front ⟨_, shorter.symm⟩

variable {before after : List Call} {call : Call}
  (run : Makes fault session planned (before ++ call :: after) ended)
include run

/-- Where a call stands among the planned ones. -/
theorem Makes.place : ∃ others, planned = before ++ call :: (after ++ others) := by
  obtain ⟨others, split⟩ := run.first
  exact ⟨others, by rw [← split, List.append_assoc, List.cons_append]⟩

/-- A call that raises is the last one. -/
theorem Makes.last_of_raises (raises : fault (session.made ++ before) call = true) : after = [] := by
  cases after with
  | nil => rfl
  | cons next rest =>
    have spared := run.spared (before ++ [call]) next rest (by simp)
    rw [spared.call] at raises
    cases raises

end

theorem draw_makes (layout : Figure.Layout) :
    ∃ calls, Makes fault session (session.progress.plan layout) calls (session.draw fault layout) :=
  (session.performs fault _).makes

/-! ## What is loaded and made -/

/-- What a session takes to be loaded and made is what its calls have brought about that returned. -/
def Sound (fault : Fault) (session : Session) : Prop :=
  session.progress = (fault.returned [] session.made).foldl Progress.after Progress.fresh

variable {fault session}

theorem sound_fresh : fresh.Sound fault :=
  rfl

theorem Sound.perform (sound : session.Sound fault) (calls : List Call) :
    (session.perform fault calls).2.Sound fault := by
  have performed := session.performs fault calls
  generalize session.perform fault calls = ended at performed
  unfold Sound at sound ⊢
  cases performed with
  | completed spared =>
    simp only [followedBy, Fault.returned_append, List.nil_append, Fault.returned_of_spares spared,
      List.foldl_append, ← sound]
  | raised spared raises =>
    simp only [followedBy, Fault.returned_append, List.nil_append, Fault.returned_of_spares spared,
      List.foldl_append, ← sound, Fault.returned, raises, if_true, List.foldl_nil]

/-- A drawing may fail, but what the next one starts from is sound again. -/
theorem sound_drawAll (layouts : List Figure.Layout) (sound : session.Sound fault) :
    (session.drawAll fault layouts).2.Sound fault := by
  induction layouts generalizing session with
  | nil => exact sound
  | cons layout rest inductionHypothesis => exact inductionHypothesis (sound.perform _)

end Session

end LoadReport.Drawing
