import LoadReport.Proofs.Layout.Labelling

/-!
# Elements of charts

A bar, or a point of a line, is scattered over a layout: its position, its value and its colour stand in
three lists of its series, its label among those of the whole chart. Put together again
(`Chart.Layout.elements`), an element is told by the chart, the place of its scenario and the value
alone, so that no scenario changes what is drawn for another.

* `Element.Shows.unique` — what an element is told by.
* `Chart.elements_shown` — what the elements of a layout are.
* `elements_differ_at` — what changes if the values of one scenario do.
-/

namespace LoadReport

open Outcomes

/-- A bar, or a point of a line, with all that is drawn of it. -/
@[ext]
structure Element where
  position : Binary64
  value : Binary64
  /-- Only bars have one. -/
  width : Option Binary64
  color : Palette.Color
  label : ValueLabel
deriving DecidableEq

namespace Series

/-- One colour for each mark. All points of a line have that of the line. -/
def markColors : Series → List Palette.Color
  | bars _ _ _ _ colors => colors
  | line _ x _ color => List.replicate x.length color

/-- The elements of a series that has the given labels. -/
def elements (series : Series) (labels : List ValueLabel) : List Element :=
  (series.marks.zip (series.markColors.zip labels)).map fun (mark, color, label) =>
    { position := mark.1, value := mark.2, width := series.width?, color, label }

/-- The elements of each of several series. The first labels are those of the first series, one for
each of its marks. -/
def allElements : List Series → List ValueLabel → List (List Element)
  | [], _ => []
  | series :: rest, labels =>
    series.elements (labels.take series.size) :: allElements rest (labels.drop series.size)

/-- The bars of a series have a colour each, and a line has that of its metric. -/
structure Colored (series : Series) (chart : Chart) (index : Nat) : Prop where
  bars : ∀ label x heights width colors, series = .bars label x heights width colors →
    colors.length = x.length ∧ colors.length = heights.length
  line : ∀ label x y color, series = .line label x y color → chart.color? index = some color

end Series

/-- What a layout shows of each of its series. -/
def Chart.Layout.elements (layout : Chart.Layout) : List (List Element) :=
  Series.allElements layout.series layout.valueLabels

/-- The place among the colours that an element takes its own from: in bar charts of a single metric
that of its scenario, in all others that of its metric. -/
def Chart.colorIndex (chart : Chart) (index place : Nat) : Nat :=
  if chart.kind = .bar ∧ chart.metrics.length = 1 then place else index

/-- An element shows the value that the scenario at a place has of the metric at an index. -/
structure Element.Shows (element : Element) (chart : Chart) (index place : Nat) (value : Binary64) :
    Prop where
  position : element.position = Binary64.ofNat place + chart.shift index
  value : element.value = value
  width : element.width = if chart.kind = .bar then some chart.barWidth else none
  color : chart.color? (chart.colorIndex index place) = some element.color
  label : element.label.Tells chart (element.position, element.value)

theorem ValueLabel.Tells.unique {label other : ValueLabel} {chart : Chart}
    {mark : Binary64 × Binary64} (tells : label.Tells chart mark) (otherTells : other.Tells chart mark) :
    label = other := by
  obtain ⟨x, y, text⟩ := label
  obtain ⟨otherX, otherY, otherText⟩ := other
  obtain ⟨rfl, rfl, rendered⟩ := tells
  obtain ⟨rfl, rfl, otherRendered⟩ := otherTells
  obtain rfl := Option.some.inj (rendered.symm.trans otherRendered)
  rfl

/-- Nothing but the chart, the place and the value tells what an element is. -/
theorem Element.Shows.unique {element other : Element} {chart : Chart} {index place : Nat}
    {value : Binary64} (shows : element.Shows chart index place value)
    (otherShows : other.Shows chart index place value) : element = other := by
  have position := shows.position.trans otherShows.position.symm
  have drawn := shows.value.trans otherShows.value.symm
  have label := shows.label
  rw [position, drawn] at label
  apply Element.ext
  · exact position
  · exact drawn
  · exact shows.width.trans otherShows.width.symm
  · exact Option.some.inj (shows.color.symm.trans otherShows.color)
  · exact label.unique otherShows.label

namespace Chart

variable {chart : Chart} {dataset : Dataset} {metric : Metric} {index : Nat}

/-! ## One metric -/

theorem placed_of_numbered : chart.placed dataset metric index =
    (dataset.numbered metric).map fun entry =>
      (Binary64.ofNat entry.1 + chart.shift index, entry.2) := by
  rw [placed, dataset.points_eq, List.map_map]
  rfl

/-- A colour that all elements share, which is that of the metric. -/
theorem forall₂_replicate_color {color : Palette.Color} (taken : chart.color? index = some color)
    (shared : ¬ (chart.kind = .bar ∧ chart.metrics.length = 1)) :
    List.Forall₂ (fun entry color => chart.color? (chart.colorIndex index entry.1) = some color)
      (dataset.numbered metric) (List.replicate (dataset.numbered metric).length color) := by
  rw [← List.map_const', List.forall₂_map_right_iff, List.forall₂_same]
  intro entry _
  rw [colorIndex, if_neg shared]
  exact taken

theorem markColors_of_series? {series : Series}
    (laidOut : chart.series? dataset metric index = some series) :
    List.Forall₂ (fun entry color => chart.color? (chart.colorIndex index entry.1) = some color)
      (dataset.numbered metric) series.markColors := by
  have count : (chart.placed dataset metric index).length = (dataset.numbered metric).length := by
    rw [placed_of_numbered, List.length_map]
  obtain ⟨bar, colors, colored, rfl⟩ | ⟨line, color, taken, rfl⟩ := chart.series?_cases dataset laidOut
  · rw [barColors?, count] at colored
    by_cases single : chart.metrics.length = 1
    · rw [if_pos single, mapM_eq_some_iff, dataset.indices_eq, List.forall₂_map_left_iff] at colored
      refine colored.imp fun entry color taken => ?_
      rw [colorIndex, if_pos ⟨bar, single⟩]
      exact taken
    · rw [if_neg single, Option.map_eq_some_iff] at colored
      obtain ⟨color, taken, rfl⟩ := colored
      exact forall₂_replicate_color taken fun both => single both.2
  · rw [Series.markColors, List.length_map, count]
    refine forall₂_replicate_color taken fun both => ?_
    rw [both.1] at line
    cases line

theorem series?_colored {series : Series}
    (laidOut : chart.series? dataset metric index = some series) : series.Colored chart index := by
  have colors := (markColors_of_series? laidOut).length_eq
  have draws := series?_draws laidOut
  have count : series.positions.length = (dataset.numbered metric).length := by
    rw [(chart.series?_marks dataset laidOut).2.1, List.length_map, placed_of_numbered,
      List.length_map]
  constructor
  · rintro label x heights width bars rfl
    exact ⟨colors.symm.trans count.symm, (colors.symm.trans count.symm).trans draws.paired⟩
  · rintro label x y color rfl
    obtain ⟨_, _, _, impossible⟩ | ⟨_, other, taken, same⟩ := chart.series?_cases dataset laidOut
    · cases impossible
    · cases same
      exact taken

theorem elements_of_series? {series : Series} {labels : List ValueLabel}
    (laidOut : chart.series? dataset metric index = some series)
    (written : chart.valueLabels? dataset metric index = some labels) :
    List.Forall₂ (fun entry element => element.Shows chart index entry.1 entry.2)
      (dataset.numbered metric) (series.elements labels) := by
  have marks : List.Forall₂
      (fun entry mark => mark = (Binary64.ofNat entry.1 + chart.shift index, entry.2))
      (dataset.numbered metric) series.marks := by
    rw [marks_of_series? laidOut, placed_of_numbered, List.forall₂_map_right_iff, List.forall₂_same]
    exact fun _ _ => rfl
  have told := valueLabels?_tell written
  rw [placed_of_numbered, List.forall₂_map_left_iff] at told
  rw [Series.elements, List.forall₂_map_right_iff]
  refine (forall₂_zip marks (forall₂_zip (markColors_of_series? laidOut) told)).imp ?_
  rintro entry ⟨mark, color, label⟩ ⟨rfl, colored, tells⟩
  exact ⟨rfl, rfl, chart.series?_width dataset laidOut, colored, tells⟩

/-! ## All metrics -/

/-- The elements of a layout are, for each metric, what shows the values of the dataset in order. -/
theorem elements_shown {layout : Chart.Layout} (laidOut : chart.layout? dataset = some layout) :
    List.Forall₂
      (fun entry elements => List.Forall₂
        (fun numbered element => element.Shows chart entry.2 numbered.1 numbered.2)
        (dataset.numbered entry.1) elements)
      chart.metrics.zipIdx layout.elements := by
  obtain ⟨series, labels, drawn, written, rfl⟩ := (chart.layout?_eq_some_iff dataset layout).mp laidOut
  -- The labels of the first metric are split off those of the others, in step with its series.
  rw [Chart.Layout.elements]
  clear laidOut
  generalize chart.metrics.zipIdx = entries at drawn written ⊢
  induction drawn generalizing labels with
  | nil => exact .nil
  | @cons entry one _ rest first _ inductionHypothesis =>
    cases written with
    | @cons _ own _ others ofFirst ofOthers =>
      have size : one.size = own.length := by
        rw [Series.size, (chart.series?_marks dataset first).2.1, List.length_map]
        exact (valueLabels?_tell ofFirst).length_eq
      rw [Series.allElements, List.flatten_cons, size, List.take_left, List.drop_left]
      exact .cons (elements_of_series? first ofFirst) (inductionHypothesis _ ofOthers)

theorem series_colored {layout : Chart.Layout} (laidOut : chart.layout? dataset = some layout) :
    List.Forall₂ (fun entry series => series.Colored chart entry.2) chart.metrics.zipIdx
      layout.series := by
  obtain ⟨series, labels, drawn, _, rfl⟩ := (chart.layout?_eq_some_iff dataset layout).mp laidOut
  exact drawn.imp fun _ _ made => series?_colored made

end Chart

/-! ## One scenario among others -/

namespace Dataset

variable (metric : Metric) (before after : List Measurement) (one : Measurement)

/-- The values that measurements have in front of one, the one's own, and those behind it. -/
theorem numbered_apart :
    numbered ⟨before ++ one :: after⟩ metric =
      numberedFrom 0 before metric ++
        (((one.values.get metric).map fun value => (before.length, value)).toList ++
          numberedFrom (before.length + 1) after metric) := by
  have split : numbered ⟨before ++ one :: after⟩ metric =
      numberedFrom 0 (before ++ one :: after) metric := rfl
  rw [split, numberedFrom, List.zipIdx_append, List.zipIdx_cons, List.filterMap_append,
    List.filterMap_cons, Nat.zero_add]
  cases one.values.get metric with
  | none => rfl
  | some value => rfl

end Dataset

/-- What is drawn of one metric for two lists of measurements that only differ in one: the elements of
the measurements in front of it are the same, and so are those of the measurements behind it. -/
def Element.DifferAt (metric : Metric) (before : List Measurement) (one other : Measurement)
    (after : List Measurement) (elements changed : List Element) : Prop :=
  ∃ front own changedOwn back, elements = front ++ (own ++ back) ∧
    changed = front ++ (changedOwn ++ back) ∧
    front.map Element.value = before.filterMap (fun measurement => measurement.values.get metric) ∧
    own.map Element.value = (one.values.get metric).toList ∧
    changedOwn.map Element.value = (other.values.get metric).toList ∧
    back.map Element.value = after.filterMap fun measurement => measurement.values.get metric

section

variable {chart : Chart} {index : Nat}

theorem values_of_shown {numbered : List (Nat × Binary64)} {elements : List Element}
    (shown : List.Forall₂ (fun entry element => element.Shows chart index entry.1 entry.2) numbered
      elements) :
    elements.map Element.value = numbered.map Prod.snd :=
  (map_eq_map_of_forall₂ (shown.imp fun _ _ shows => shows.value.symm)).symm

theorem elements_differ_at {metric : Metric} {before after : List Measurement}
    {one other : Measurement} {elements changed : List Element}
    (shown : List.Forall₂ (fun entry element => element.Shows chart index entry.1 entry.2)
      (Dataset.numbered ⟨before ++ one :: after⟩ metric) elements)
    (shownChanged : List.Forall₂ (fun entry element => element.Shows chart index entry.1 entry.2)
      (Dataset.numbered ⟨before ++ other :: after⟩ metric) changed) :
    Element.DifferAt metric before one other after elements changed := by
  have unique : Relator.RightUnique
      fun (entry : Nat × Binary64) (element : Element) => element.Shows chart index entry.1 entry.2 :=
    fun _ _ _ shows otherShows => shows.unique otherShows
  rw [Dataset.numbered_apart] at shown shownChanged
  obtain ⟨front, rest, rfl, ofFront, ofRest⟩ := exists_append_of_forall₂ shown
  obtain ⟨own, back, rfl, ofOwn, ofBack⟩ := exists_append_of_forall₂ ofRest
  obtain ⟨changedFront, changedRest, rfl, ofChangedFront, ofChangedRest⟩ :=
    exists_append_of_forall₂ shownChanged
  obtain ⟨changedOwn, changedBack, rfl, ofChangedOwn, ofChangedBack⟩ :=
    exists_append_of_forall₂ ofChangedRest
  -- Places and values of the other measurements are the same, and they tell the elements.
  obtain rfl := List.right_unique_forall₂' unique ofFront ofChangedFront
  obtain rfl := List.right_unique_forall₂' unique ofBack ofChangedBack
  refine ⟨front, own, changedOwn, back, rfl, rfl, ?_, ?_, ?_, ?_⟩
  · rw [values_of_shown ofFront, Dataset.values_of_numberedFrom]
  · rw [values_of_shown ofOwn]
    cases one.values.get metric <;> rfl
  · rw [values_of_shown ofChangedOwn]
    cases other.values.get metric <;> rfl
  · rw [values_of_shown ofBack, Dataset.values_of_numberedFrom]

end

/-- Every element is told by its chart, the place of its scenario and its value: it stands at that
place, in the colour of that place if the chart has bars of a single metric, and else in that of its
metric. So if the values of one scenario change, also from or to none, all elements of all other
scenarios stay as they are. -/
theorem Chart.other_scenarios_are_drawn_alike (chart : Chart) :
    (∀ dataset layout, chart.layout? dataset = some layout →
      List.Forall₂ (fun entry series => series.Colored chart entry.2) chart.metrics.zipIdx
          layout.series ∧
        List.Forall₂
          (fun entry elements => List.Forall₂
            (fun numbered element => element.Shows chart entry.2 numbered.1 numbered.2)
            (dataset.numbered entry.1) elements)
          chart.metrics.zipIdx layout.elements) ∧
      ∀ before one other after layout changed, one.scenario = other.scenario →
        chart.layout? ⟨before ++ one :: after⟩ = some layout →
        chart.layout? ⟨before ++ other :: after⟩ = some changed →
        changed.ticks = layout.ticks ∧ changed.tickLabels = layout.tickLabels ∧
          List.Forall₂
            (fun entry drawn => Element.DifferAt entry.1 before one other after drawn.1 drawn.2)
            chart.metrics.zipIdx (layout.elements.zip changed.elements) := by
  refine ⟨fun dataset layout laidOut => ⟨series_colored laidOut, elements_shown laidOut⟩, ?_⟩
  intro before one other after layout changed same laidOut changedLaidOut
  have both := forall₂_zip (elements_shown laidOut) (elements_shown changedLaidOut)
  obtain ⟨_, _, _, _, rfl⟩ := (chart.layout?_eq_some_iff _ layout).mp laidOut
  obtain ⟨_, _, _, _, rfl⟩ := (chart.layout?_eq_some_iff _ changed).mp changedLaidOut
  refine ⟨?_, ?_, both.imp fun _ _ shown => elements_differ_at shown.1 shown.2⟩
  · simp [Dataset.ticks, Dataset.size]
  · simp [Dataset.labels, same]

/-- Bars of one metric, in two colours by turns. -/
def alternatingChart : Chart where
  title := "Load"
  kind := .bar
  metrics := [.throughput]
  xLabel := none
  yLabel := ""
  labelFormat := ⟨"%.0f", [.fixed 0]⟩
  yMax := none
  labelOffset := 5
  colors := some ["red", "blue"]

/-- A scenario of which at most the throughput is known. -/
def throughputOnly (scenario : String) (throughput : Option Binary64) : Measurement :=
  ⟨scenario, ⟨throughput, none, none⟩⟩

/-- Three scenarios, of which the second may have no throughput. -/
def alternatingDataset (second : Option Binary64) : Dataset where
  measurements := [throughputOnly "Uniform" (some 326.5)] ++
    throughputOnly "Hot-Spot" second :: [throughputOnly "Mixed" (some 402.9)]

/-- The bar of the third scenario is red, whether the second one has a bar or not. -/
theorem last_bar_is_red_either_way :
    ∃ layout changed first second last,
      alternatingChart.layout? (alternatingDataset none) = some layout ∧
        alternatingChart.layout? (alternatingDataset (some 350)) = some changed ∧
        layout.elements = [[first, last]] ∧ changed.elements = [[first, second, last]] ∧
        last.position = 2 ∧ last.value = 402.9 ∧ last.color = "red" := by
  obtain ⟨layout, laidOut⟩ :
      ∃ layout, alternatingChart.layout? (alternatingDataset none) = some layout :=
    Option.isSome_iff_exists.mp (by decide +kernel)
  obtain ⟨changed, changedLaidOut⟩ :
      ∃ changed, alternatingChart.layout? (alternatingDataset (some 350)) = some changed :=
    Option.isSome_iff_exists.mp (by decide +kernel)
  obtain ⟨shows, differ⟩ := alternatingChart.other_scenarios_are_drawn_alike
  obtain ⟨elements, _, shown, ⟨⟩, ofLayout⟩ :=
    List.forall₂_cons_left_iff.mp (shows _ layout laidOut).2
  obtain ⟨elementsChanged, _, _, ⟨⟩, ofChanged⟩ :=
    List.forall₂_cons_left_iff.mp (shows _ changed changedLaidOut).2
  have apart := (differ [_] (throughputOnly "Hot-Spot" none) (throughputOnly "Hot-Spot" (some 350))
    [_] layout changed rfl laidOut changedLaidOut).2.2
  rw [ofLayout, ofChanged] at apart
  obtain ⟨front, own, changedOwn, back, rfl, rfl, ofFront, ofOwn, ofChangedOwn, ofBack⟩ :=
    (List.forall₂_cons.mp apart).1
  obtain ⟨first, rfl, _⟩ := List.map_eq_singleton_iff.mp ofFront
  obtain rfl := List.map_eq_nil_iff.mp ofOwn
  obtain ⟨second, rfl, _⟩ := List.map_eq_singleton_iff.mp ofChangedOwn
  obtain ⟨last, rfl, value⟩ := List.map_eq_singleton_iff.mp ofBack
  -- Without a bar of the second scenario, that of the third is the second one.
  have lastShown := (List.forall₂_cons.mp (List.forall₂_cons.mp shown).2).1
  refine ⟨layout, changed, first, second, last, laidOut, changedLaidOut, ofLayout, ofChanged, ?_,
    value, ?_⟩
  · rw [lastShown.position]
    decide +kernel
  · exact Option.some.inj lastShown.color.symm

end LoadReport
