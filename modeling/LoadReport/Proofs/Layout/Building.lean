import LoadReport.Proofs.LabelFormat.Conversions
import LoadReport.Proofs.Layout.Existence

/-!
# Layouts of charts as they are built

A chart that has been built but not been checked keeps the label format that it was created with. Whether it
has a layout is decided by the last colours and metrics that it was given, and by the specification of the
format.
-/

namespace LoadReport

namespace LabelFormat

theorem Token.piece_eq_fixed_iff (token : Token) (places : Nat) :
    token.piece = .fixed places ↔ token.places? = some places := by
  cases token with
  | plain | percent | integer => simp [piece, places?]
  | decimals => simp [piece, places?, defaultPlaces]
  | places digits => simp [piece, places?]

/-- A format is overlong if the specification asks for that many places. -/
theorem overlong_iff {specification : String} {format : LabelFormat}
    (accepted : parse specification = .ok format) :
    format.Overlong ↔ ∃ tokens, specification.toList = texts tokens ∧
      ∃ token ∈ tokens, ∃ places, token.places? = some places ∧ writablePlaces < places := by
  obtain ⟨tokens, spelled, _, rfl⟩ := parse_eq_ok_iff.mp accepted
  simp only [Overlong, List.mem_map, Token.piece_eq_fixed_iff]
  constructor
  · rintro ⟨places, ⟨token, member, asks⟩, overlong⟩
    exact ⟨tokens, spelled, token, member, places, asks, overlong⟩
  · rintro ⟨others, otherSpelled, token, member, places, asks, overlong⟩
    -- The text falls into tokens in one way only, so these are the tokens that were read.
    have split : Splits specification.toList tokens [] := ⟨by simp [spelled], .inl rfl⟩
    have otherSplit : Splits specification.toList others [] := ⟨by simp [otherSpelled], .inl rfl⟩
    obtain ⟨rfl, _⟩ := split.unique otherSplit
    exact ⟨places, ⟨token, member, asks⟩, overlong⟩

end LabelFormat

namespace Chart

/-- The charts that can be made with a specification of their labels, by creating one and then adjusting
it. -/
inductive Built (specification : String) : Chart → Prop where
  | create {title yLabel : String} {kind : Kind} {metric : Metric} {chart : Chart}
      (created : Chart.create title kind metric yLabel specification = .ok chart) :
      Built specification chart
  | withMetrics {chart : Chart} (built : Built specification chart) (metrics : List Metric) :
      Built specification (chart.withMetrics metrics)
  | withXLabel {chart : Chart} (built : Built specification chart) (label : String) :
      Built specification (chart.withXLabel label)
  | withYMax {chart : Chart} (built : Built specification chart) (bound : Binary64) :
      Built specification (chart.withYMax bound)
  | withLabelOffset {chart : Chart} (built : Built specification chart) (offset : Binary64) :
      Built specification (chart.withLabelOffset offset)
  | withColors {chart : Chart} (built : Built specification chart) (colors : List Palette.Color) :
      Built specification (chart.withColors colors)

theorem parse_of_create {title yLabel specification : String} {kind : Kind} {metric : Metric}
    {chart : Chart} (created : Chart.create title kind metric yLabel specification = .ok chart) :
    LabelFormat.parse specification = .ok chart.labelFormat := by
  rw [create] at created
  cases accepted : LabelFormat.parse specification with
  | error fault =>
    rw [accepted] at created
    cases created
  | ok labelFormat =>
    rw [accepted] at created
    cases created
    rfl

/-- No adjustment changes the label format. -/
theorem Built.parse {specification : String} {chart : Chart} (built : Built specification chart) :
    LabelFormat.parse specification = .ok chart.labelFormat := by
  induction built with
  | create created => exact parse_of_create created
  | withMetrics _ _ unchanged => exact unchanged
  | withXLabel _ _ unchanged => exact unchanged
  | withYMax _ _ unchanged => exact unchanged
  | withLabelOffset _ _ unchanged => exact unchanged
  | withColors _ _ unchanged => exact unchanged

/-- Some metric is painted unless there is none, or a single one without bars. -/
theorem exists_paints_iff (chart : Chart) (dataset : Dataset) :
    (∃ metric ∈ chart.metrics, chart.Paints dataset metric) ↔
      chart.metrics ≠ [] ∧ (chart.kind = .line ∨ 1 < chart.metrics.length ∨
        ∃ metric, chart.metrics = [metric] ∧ dataset.Has metric) := by
  have notBar : chart.kind = .line ↔ ¬ chart.kind = .bar := by cases chart.kind <;> simp
  simp only [Paints, notBar]
  rcases chart.metrics with _ | ⟨metric, _ | ⟨other, rest⟩⟩
  · simp
  · simp [imp_iff_not_or]
  · simp

/-- A chart that has been built from a specification has no layout in two cases. Either its colours are an
empty list and one of them is needed, which a line and each of several metrics do even without values, but
the bars of a single metric only if there are any. Or the specification asks for more places than can be
written, and there is a value to write. -/
theorem built_chart_has_no_layout_iff {specification : String} {chart : Chart}
    (built : Built specification chart) (dataset : Dataset) :
    chart.layout? dataset = none ↔
      (chart.colors = some [] ∧ chart.metrics ≠ [] ∧
        (chart.kind = .line ∨ 1 < chart.metrics.length ∨
          ∃ metric, chart.metrics = [metric] ∧ dataset.Has metric)) ∨
      ((∃ tokens, specification.toList = LabelFormat.texts tokens ∧
          ∃ token ∈ tokens, ∃ places, token.places? = some places ∧ 65535 < places) ∧
        ∃ metric ∈ chart.metrics, dataset.Has metric) := by
  have overlong := LabelFormat.overlong_iff built.parse
  rw [layout?_eq_none_iff, exists_paints_iff, overlong]
  exact Iff.rfl

/-- A chart of the throughput as it is created. -/
def throughputChart (kind : Kind) (labelFormat : LabelFormat) : Chart where
  title := "Load"
  kind := kind
  metrics := [.throughput]
  xLabel := none
  yLabel := ""
  labelFormat := labelFormat
  yMax := none
  labelOffset := 0
  colors := none

/-- A dataset with a single value. -/
def oneThroughput : Dataset where
  measurements := [⟨"Uniform", ⟨some 326.5, none, none⟩⟩]

/-- The conversion `%.65536f`. -/
def overlongToken : LabelFormat.Token :=
  .places ['6', '5', '5', '3', '6'] (by decide) (List.all_eq_true.mp rfl) (by decide)

/-- Without colours, a line has no layout even where there is nothing to draw, while bars of one metric have
one there. With an overlong format, only the values decide. -/
theorem colors_and_places_matter_only_where_needed :
    let whole : LabelFormat := ⟨"%.0f", [.fixed 0]⟩
    let overlong : LabelFormat := ⟨"%.65536f", [.fixed 65536]⟩
    ((throughputChart .line whole).withColors []).layout? ⟨[]⟩ = none ∧
      ((throughputChart .bar whole).withColors []).layout? ⟨[]⟩ ≠ none ∧
      ((throughputChart .bar whole).withColors []).layout? oneThroughput = none ∧
      (throughputChart .bar overlong).layout? ⟨[]⟩ ≠ none ∧
      (throughputChart .bar overlong).layout? oneThroughput = none := by
  intro whole overlong
  have created : ∀ kind, Built "%.0f" (throughputChart kind whole) := fun kind =>
    .create (show create "Load" kind .throughput "" "%.0f" = .ok (throughputChart kind whole) by
      cases kind <;> decide +kernel)
  have createdLong : Built "%.65536f" (throughputChart .bar overlong) :=
    .create (show create "Load" .bar .throughput "" "%.65536f" = .ok (throughputChart .bar overlong) by
      decide +kernel)
  have has : oneThroughput.Has .throughput := ⟨_, List.mem_cons_self, rfl⟩
  have lacks : ∀ metric, ¬ Dataset.Has ⟨[]⟩ metric := fun metric ⟨_, inside, _⟩ => nomatch inside
  have bars := built_chart_has_no_layout_iff ((created .bar).withColors [])
  have long := built_chart_has_no_layout_iff createdLong
  refine ⟨?_, ?_, ?_, ?_, ?_⟩
  · exact (built_chart_has_no_layout_iff ((created .line).withColors []) _).mpr
      (.inl ⟨rfl, List.cons_ne_nil _ _, .inl rfl⟩)
  · rw [ne_eq, bars ⟨[]⟩]
    rintro (⟨_, _, line | several | ⟨metric, _, measured⟩⟩ | ⟨_, metric, _, measured⟩)
    · cases line
    · exact absurd several (Nat.lt_irrefl 1)
    · exact lacks metric measured
    · exact lacks metric measured
  · exact (bars oneThroughput).mpr
      (.inl ⟨rfl, List.cons_ne_nil _ _, .inr (.inr ⟨.throughput, rfl, has⟩)⟩)
  · rw [ne_eq, long ⟨[]⟩]
    rintro (⟨colorless, _⟩ | ⟨_, metric, _, measured⟩)
    · cases colorless
    · exact lacks metric measured
  · exact (long oneThroughput).mpr (.inr ⟨⟨[overlongToken], by decide, _, List.mem_cons_self, 65536,
      by decide, by decide⟩, .throughput, List.mem_cons_self, has⟩)

end Chart

end LoadReport
