import LoadReport.Proofs.Drawing.Session

/-!
# Calls say everything about a layout

A layout can be told from the calls that draw it, as the library receives them: by target, function
and arguments. Calls of one kind follow one another without any in between, so that where one kind
ends and the next begins can be seen (`cancel`); the axes of each chart begin with a `subplot`.

* `Call.request_injective` — a call is known from what the library receives.
* `chartCalls_cancel`, `chartsCalls_cancel` — charts are known from their calls.
-/

namespace LoadReport.Drawing

/-! ## What the library receives -/

/-- A value as it is handed over. A list does not say what it is a list of. -/
inductive Value where
  | text (value : String)
  | number (value : Binary64)
  | count (value : Nat)
  | figure (number : Nat)
  | list (items : List Value)

/-- An argument as it is handed over. -/
def Argument.value : Argument → Value
  | .text content => .text content
  | .number content => .number content
  | .count content => .count content
  | .numbers contents => .list (contents.map Value.number)
  | .texts contents => .list (contents.map Value.text)
  | .figure content => .figure content

/-- A call as the library receives it. -/
structure Request where
  target : Target
  function : String
  positional : List Value
  keywords : List (String × Value)

def Call.request (call : Call) : Request where
  target := call.target
  function := call.function
  positional := call.positional.map Argument.value
  keywords := call.keywords.map fun keyword => (keyword.1, keyword.2.value)

namespace Value

@[simp] theorem numbers_inj {values others : List Binary64} :
    values.map number = others.map number ↔ values = others :=
  List.map_inj_right fun _ _ => number.inj

@[simp] theorem texts_inj {values others : List String} :
    values.map text = others.map text ↔ values = others :=
  List.map_inj_right fun _ _ => text.inj

end Value

theorem Call.request_injective {first second : Call} (same : first.request = second.request) :
    first = second := by
  cases first <;> cases second
  case openFigure.openFigure size other =>
    cases size
    cases other
    simp_all [request, target, function, positional, keywords, Argument.value]
  case writeLabel.writeLabel axes label otherAxes otherLabel =>
    cases label
    cases otherLabel
    simp_all [request, target, function, positional, keywords, Argument.value]
  case setLimits.setLimits axes top otherAxes otherTop =>
    cases top <;> cases otherTop <;>
      simp_all [request, target, function, positional, keywords, Argument.value]
  case save.save output resolution otherOutput otherResolution =>
    cases output
    cases otherOutput
    cases resolution <;> cases otherResolution <;>
      simp_all [request, target, function, positional, keywords, Argument.value]
  -- Other calls of one kind hand over all they are made of; those of two kinds name two functions.
  all_goals simp_all [request, target, function, positional, keywords, Argument.value]

/-! ## Where calls of one kind end -/

/-- The first of several calls, if there is one, is of none of the given functions. -/
def Departs (functions : List String) (calls : List Call) : Prop :=
  ∀ call ∈ calls.head?, call.function ∉ functions

/-- A part of a layout is written by calls of the given functions, and is known from them. -/
structure Writes {α : Type} (functions : List String) (write : α → List Call) : Prop where
  own : ∀ part, ∀ call ∈ write part, call.function ∈ functions
  known : ∀ first second, write first = write second → first = second

theorem prefix_cancel {functions : List String} {first second rest others : List Call}
    (ofFirst : ∀ call ∈ first, call.function ∈ functions)
    (ofSecond : ∀ call ∈ second, call.function ∈ functions)
    (departs : Departs functions rest) (othersDepart : Departs functions others)
    (same : first ++ rest = second ++ others) : first = second ∧ rest = others := by
  induction first generalizing second with
  | nil =>
    cases second with
    | nil => exact ⟨rfl, same⟩
    | cons call second =>
      rw [List.nil_append] at same
      subst same
      exact absurd (ofSecond call List.mem_cons_self) (departs call rfl)
  | cons call first inductionHypothesis =>
    rw [List.forall_mem_cons] at ofFirst
    cases second with
    | nil =>
      rw [List.nil_append] at same
      subst same
      exact absurd ofFirst.1 (othersDepart call rfl)
    | cons other second =>
      rw [List.forall_mem_cons] at ofSecond
      rw [List.cons_append, List.cons_append] at same
      obtain ⟨rfl, onward⟩ := List.cons.inj same
      obtain ⟨rfl, behind⟩ := inductionHypothesis ofFirst.2 ofSecond.2 onward
      exact ⟨rfl, behind⟩

/-- A part is known from its calls also in front of others, if these go on with another function. -/
theorem Writes.cancel {α : Type} {functions : List String} {write : α → List Call}
    (writes : Writes functions write) {first second : α} {rest others : List Call}
    (departs : Departs functions rest) (othersDepart : Departs functions others)
    (same : write first ++ rest = write second ++ others) : first = second ∧ rest = others := by
  obtain ⟨parts, behind⟩ :=
    prefix_cancel (writes.own first) (writes.own second) departs othersDepart same
  exact ⟨writes.known first second parts, behind⟩

section

variable (axes : Nat)

theorem seriesCall_injective {first second : Series}
    (same : seriesCall axes first = seriesCall axes second) : first = second := by
  cases first <;> cases second <;> simp_all [seriesCall]

theorem writes_series :
    Writes ["bar", "plot"] fun series : List Series => series.map (seriesCall axes) where
  own := by
    intro series call member
    obtain ⟨one, _, rfl⟩ := List.mem_map.mp member
    cases one <;> simp [seriesCall, Call.function]
  known := fun _ _ same => (List.map_inj_right fun _ _ => seriesCall_injective axes).mp same

theorem writes_valueLabels :
    Writes ["text"] fun labels : List ValueLabel => labels.map (Call.writeLabel axes) where
  own := by simp [Call.function]
  known := fun _ _ same =>
    (List.map_inj_right fun _ _ equal => (Call.writeLabel.inj equal).2).mp same

theorem writes_xLabel :
    Writes ["set_xlabel"] fun label : Option String => (label.map (Call.setXLabel axes)).toList where
  own := by simp [Call.function]
  known := by
    intro first second same
    cases first <;> cases second <;> simp_all

theorem writes_legend :
    Writes ["legend"] fun legend => if legend = true then [Call.showLegend axes] else [] where
  own := by simp [Call.function]
  known := by
    intro first second same
    cases first <;> cases second <;> simp_all

/-! ## Charts -/

/-- What follows the calls of a chart: the next chart, or the end of all charts. -/
def BehindChart (calls : List Call) : Prop :=
  ∃ call rest, calls = call :: rest ∧ (call.function = "subplot" ∨ call.function = "tight_layout")

variable {axes}

theorem BehindChart.departs {calls : List Call} (behind : BehindChart calls) :
    Departs ["legend"] calls := by
  obtain ⟨call, rest, rfl, next | last⟩ := behind
  · simp [Departs, next]
  · simp [Departs, last]

theorem chartCalls_cancel {first second : Chart.Layout} {rest others : List Call}
    (behind : BehindChart rest) (othersBehind : BehindChart others)
    (same : chartCalls axes first ++ rest = chartCalls axes second ++ others) :
    first = second ∧ rest = others := by
  obtain ⟨title, xLabel, yLabel, yMax, ticks, tickLabels, series, labels, legend⟩ := first
  obtain ⟨otherTitle, otherXLabel, otherYLabel, otherYMax, otherTicks, otherTickLabels, otherSeries,
    otherLabels, otherLegend⟩ := second
  simp only [chartCalls, List.append_assoc, List.cons_append, List.nil_append] at same
  -- The parts follow in the order in which they are drawn, each known from its own calls.
  obtain ⟨rfl, afterSeries⟩ := (writes_series axes).cancel
    (by cases labels <;> simp [Departs, Call.function])
    (by cases otherLabels <;> simp [Departs, Call.function]) same
  obtain ⟨rfl, afterLabels⟩ := (writes_valueLabels axes).cancel
    (by simp [Departs, Call.function]) (by simp [Departs, Call.function]) afterSeries
  obtain ⟨titleSame, afterTitle⟩ := List.cons.inj afterLabels
  obtain ⟨rfl, afterXLabel⟩ := (writes_xLabel axes).cancel
    (by simp [Departs, Call.function]) (by simp [Departs, Call.function]) afterTitle
  simp only [List.cons.injEq, Call.setYLabel.injEq, Call.setTicks.injEq, Call.setTickLabels.injEq,
    Call.setLimits.injEq, true_and] at afterXLabel
  obtain ⟨rfl, rfl, rfl, rfl, afterLimits⟩ := afterXLabel
  obtain ⟨rfl, afterLegend⟩ :=
    (writes_legend axes).cancel behind.departs othersBehind.departs afterLimits
  obtain ⟨_, rfl⟩ := Call.setTitle.inj titleSame
  exact ⟨rfl, afterLegend⟩

theorem behindChart_chartsCalls (columns axes index : Nat) (charts : List Chart.Layout)
    {rest : List Call} (behind : BehindChart rest) :
    BehindChart (chartsCalls columns axes index charts ++ rest) := by
  cases charts with
  | nil => exact behind
  | cons chart others => exact ⟨_, _, rfl, .inl rfl⟩

/-- Charts are known from their calls in front of what ends them. -/
theorem chartsCalls_cancel {columns otherColumns axes index : Nat}
    {first second : List Chart.Layout} {rest others : List Call}
    (same : chartsCalls columns axes index first ++ .arrange :: rest =
      chartsCalls otherColumns axes index second ++ .arrange :: others) :
    first = second ∧ rest = others := by
  have ends (rest : List Call) : BehindChart (.arrange :: rest) := ⟨_, _, rfl, .inr rfl⟩
  induction first generalizing second axes index with
  | nil =>
    cases second with
    | nil => exact ⟨rfl, (List.cons.inj same).2⟩
    | cons chart second => cases (List.cons.inj same).1
  | cons chart first inductionHypothesis =>
    cases second with
    | nil => cases (List.cons.inj same).1
    | cons other second =>
      simp only [chartsCalls, List.cons_append, List.append_assoc, List.cons.injEq] at same
      obtain ⟨rfl, onward⟩ := chartCalls_cancel
        (behindChart_chartsCalls _ _ _ _ (ends rest))
        (behindChart_chartsCalls _ _ _ _ (ends others)) same.2
      obtain ⟨rfl, behind⟩ := inductionHypothesis onward
      exact ⟨rfl, behind⟩

end

/-! ## Layouts -/

theorem plan_injective {progress : Progress} {first second : Figure.Layout}
    (same : progress.plan first = progress.plan second) : first = second := by
  obtain ⟨output, resolution, size, charts⟩ := first
  obtain ⟨otherOutput, otherResolution, otherSize, otherCharts⟩ := second
  simp only [Progress.plan, List.append_cancel_left_eq, List.cons.injEq, Call.openFigure.injEq]
    at same
  obtain ⟨rfl, same⟩ := same
  obtain ⟨rfl, saved⟩ := chartsCalls_cancel same
  simp only [List.cons.injEq, Call.save.injEq] at saved
  obtain ⟨⟨rfl, rfl⟩, _⟩ := saved
  rfl

/-- Two layouts are the same exactly if drawing them makes the same calls as the library receives them,
whatever has been drawn before, as long as no call raises. -/
theorem calls_tell_layouts_apart (session : Session) (first second : Figure.Layout) :
    let requests (layout : Figure.Layout) :=
      (session.draw Fault.none layout).2.made.map Call.request
    requests first = requests second ↔ first = second := by
  intro requests
  constructor
  · intro same
    simp only [requests, Session.draw_without_fault, Session.followedBy, List.map_append,
      List.append_cancel_left_eq] at same
    exact plan_injective ((List.map_inj_right fun _ _ => Call.request_injective).mp same)
  · intro equal
    rw [equal]

end LoadReport.Drawing
