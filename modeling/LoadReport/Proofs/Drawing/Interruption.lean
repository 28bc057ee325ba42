import LoadReport.Proofs.Drawing.Housekeeping

/-!
# Where drawings are interrupted

The first call that raises is the last one that a drawing makes: it fails there, and what it has done up
to there is what it would have done anyway. An image is saved behind all calls for its charts, so that
none is saved of charts that are not complete.

* `Fault.first_raise_unique` — there is one call that raises first.
* `chart_infix_chartsCalls`, `saving_of_plan` — the charts of a figure come before its image.
-/

namespace LoadReport.Drawing

open Outcomes

/-! ## The first call that raises -/

/-- If two calls among the same ones raise, and none before either of them, they are one call. -/
theorem Fault.first_raise_unique {fault : Fault} {made before after front back : List Call}
    {call other : Call} (same : before ++ call :: after = front ++ other :: back)
    (spared : fault.Spares made before) (raises : fault (made ++ before) call = true)
    (sparedFront : fault.Spares made front) (otherRaises : fault (made ++ front) other = true) :
    before = front ∧ call = other := by
  obtain ⟨inner, frontEqual, rest⟩ | ⟨inner, beforeEqual, rest⟩ := List.append_eq_append_iff.mp same
  · cases inner with
    | nil => exact ⟨by simpa using frontEqual.symm, (List.cons.inj rest).1⟩
    | cons head inner =>
      -- The call stands in front of the other one, where none raises.
      obtain ⟨rfl, _⟩ := List.cons.inj rest
      subst frontEqual
      rw [sparedFront.call] at raises
      cases raises
  · cases inner with
    | nil => exact ⟨by simpa using beforeEqual, (List.cons.inj rest).1.symm⟩
    | cons head inner =>
      obtain ⟨rfl, _⟩ := List.cons.inj rest
      subst beforeEqual
      rw [spared.call] at otherRaises
      cases otherRaises

namespace Session

section

variable {fault : Fault} {session : Session} {planned calls : List Call}
  {ended : Except Failure Unit × Session} (performed : Performs fault session planned ended)
  (made : ended.2.made = session.made ++ calls)
include performed made

/-- Planned calls are performed with success exactly if all that are made return. -/
theorem Performs.completed_iff : ended.1 = .ok () ↔ fault.Spares session.made calls := by
  cases performed with
  | completed spared =>
    obtain rfl := List.append_cancel_left made
    exact iff_of_true rfl spared
  | raised spared raises =>
    obtain rfl := List.append_cancel_left made
    refine iff_of_false nofun fun all => ?_
    rw [all.call] at raises
    cases raises

theorem Performs.calls_eq_of_spares (spared : fault.Spares session.made planned) :
    calls = planned := by
  cases performed with
  | completed _ => exact (List.append_cancel_left made).symm
  | raised _ raises =>
    rw [spared.call] at raises
    cases raises

/-- The first of planned calls that raises is the last one that is made. -/
theorem Performs.ends_of_first_raise {before after : List Call} {call : Call}
    (split : planned = before ++ call :: after) (spared : fault.Spares session.made before)
    (raises : fault (session.made ++ before) call = true) :
    ended.1 = .error (Failure.ofCause .drawingRaised) ∧ calls = before ++ [call] := by
  cases performed with
  | completed all =>
    subst split
    rw [all.call] at raises
    cases raises
  | raised sparedFront otherRaises =>
    obtain ⟨rfl, rfl⟩ := Fault.first_raise_unique split.symm spared raises sparedFront otherRaises
    exact ⟨rfl, (List.append_cancel_left made).symm⟩

end

end Session

/-! ## Charts and images -/

/-- All calls for a chart follow one another, from its axes on. -/
theorem chart_infix_chartsCalls (columns axes first : Nat) {index : Nat}
    {charts : List Chart.Layout} {chart : Chart.Layout} (stands : charts[index]? = some chart) :
    Call.subplot columns (first + index + 1) :: chartCalls (axes + index) chart <:+:
      chartsCalls columns axes first charts := by
  induction charts generalizing axes first index with
  | nil => cases stands
  | cons head rest inductionHypothesis =>
    cases index with
    | zero =>
      obtain rfl := Option.some.inj stands
      exact ⟨[], chartsCalls columns (axes + 1) (first + 1) rest, by simp [chartsCalls]⟩
    | succ index =>
      have others := inductionHypothesis (axes + 1) (first + 1) stands
      rw [Nat.add_right_comm first, Nat.add_right_comm axes] at others
      refine others.trans ⟨.subplot columns (first + 1) :: chartCalls axes head, [], ?_⟩
      simp [chartsCalls]

theorem not_saves_of_mem_chartsCalls {columns axes index : Nat} {charts : List Chart.Layout}
    {call : Call} (member : call ∈ chartsCalls columns axes index charts) :
    call.function ≠ "savefig" := by
  obtain ⟨position, rfl⟩ | ⟨number, onAxes⟩ := target_of_mem_chartsCalls member
  · simp [Call.function]
  · cases call <;> simp_all [Call.function, Call.target]

theorem not_saves_of_mem_preparation {progress : Progress} {call : Call}
    (member : call ∈ progress.preparation) : call.function ≠ "savefig" := by
  obtain rfl | rfl | rfl := eq_of_mem_preparation member
  · simp [Call.function]
  · simp [Call.function]
  · simp [Call.function]

/-- An image is saved behind the calls for all charts. -/
theorem saving_of_plan {progress : Progress} {layout : Figure.Layout} {before after : List Call}
    {saving : Call} (split : progress.plan layout = before ++ saving :: after)
    (saves : saving.function = "savefig") :
    chartsCalls layout.charts.length progress.axes 0 layout.charts <:+: before := by
  let charts := chartsCalls layout.charts.length progress.axes 0 layout.charts
  let front := progress.preparation ++ .openFigure layout.size :: (charts ++ [.arrange])
  have planned : progress.plan layout =
      front ++ [.save layout.output layout.resolution, .closeFigure progress.figures] := by
    simp [Progress.plan, front, charts]
  -- As no call of `front` saves, the one that does stands behind all of them.
  have absent : saving ∉ front := by
    intro member
    simp only [front, List.mem_append, List.mem_cons, List.not_mem_nil, or_false] at member
    obtain prepares | rfl | draws | rfl := member
    · exact not_saves_of_mem_preparation prepares saves
    · simp [Call.function] at saves
    · exact not_saves_of_mem_chartsCalls draws saves
    · simp [Call.function] at saves
  rw [planned] at split
  obtain ⟨inner, rfl, _⟩ := append_eq_append_cons_of_not_mem split absent
  exact ⟨progress.preparation ++ [.openFigure layout.size], .arrange :: inner, by simp [front, charts]⟩

/-! ## Drawings -/

/-- Whatever calls raise, and whatever has been drawn before, a drawing succeeds exactly if none of its
calls raises. The one that raises first is its last: up to there the calls are those that the drawing
makes if nothing raises, and there it fails with the fault of the library. So an image is saved only
behind all calls for all of its charts, none of which has raised. -/
theorem drawing_ends_at_first_raising_call (fault : Fault) (session : Session)
    (layout : Figure.Layout) :
    let ended := session.draw fault layout
    ∃ planned calls, (session.draw Fault.none layout).2.made = session.made ++ planned ∧
      ended.2.made = session.made ++ calls ∧
      (ended.1 = .ok () ↔ fault.Spares session.made calls) ∧
      (fault.Spares session.made planned → calls = planned) ∧
      (∀ before call after, planned = before ++ call :: after → fault.Spares session.made before →
        fault (session.made ++ before) call = true →
        ended.1 = .error (Failure.ofCause .drawingRaised) ∧ calls = before ++ [call]) ∧
      ∀ before saving after, calls = before ++ saving :: after → saving.function = "savefig" →
        fault.Spares session.made before ∧
          ∀ index chart, layout.charts[index]? = some chart →
            .subplot layout.charts.length (index + 1) ::
              chartCalls (session.progress.axes + index) chart <:+: before := by
  intro ended
  have performed := session.draw_performs fault layout
  obtain ⟨calls, drawn⟩ := session.draw_makes fault layout
  have undisturbed : (session.draw Fault.none layout).2.made =
      session.made ++ session.progress.plan layout := by
    rw [session.draw_without_fault]
    rfl
  refine ⟨_, calls, undisturbed, drawn.made, performed.completed_iff drawn.made,
    performed.calls_eq_of_spares drawn.made, ?_, ?_⟩
  · intro before call after split spared raises
    exact performed.ends_of_first_raise drawn.made split spared raises
  · rintro before saving after rfl saves
    obtain ⟨others, planned⟩ := drawn.place
    refine ⟨drawn.spared before saving after rfl, fun index chart stands => ?_⟩
    have whole := saving_of_plan planned saves
    have part := chart_infix_chartsCalls layout.charts.length session.progress.axes 0 stands
    rw [Nat.zero_add] at part
    exact part.trans whole

/-- Of two charts, the second cannot be labelled: the first is complete, and no image is saved. -/
example :
    let charts := (onePoint ⟨"a.png"⟩).charts
    let ended := Session.fresh.draw (Fault.nth "text" 1)
      { onePoint ⟨"a.png"⟩ with charts := charts ++ charts }
    ended.1 = .error (Failure.ofCause .drawingRaised) ∧
      ended.2.made.map Call.function =
        ["import matplotlib", "use", "import matplotlib.pyplot", "figure", "subplot", "plot", "text",
          "set_title", "set_ylabel", "set_xticks", "set_xticklabels", "set_ylim", "subplot", "plot",
          "text"] := by
  decide +kernel

end LoadReport.Drawing
