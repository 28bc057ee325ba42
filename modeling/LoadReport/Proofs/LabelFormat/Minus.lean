import LoadReport.Proofs.Json.Signs
import LoadReport.Proofs.LabelFormat.Conversions
import LoadReport.Proofs.Layout.Building
import LoadReport.Proofs.Layout.Finiteness
import LoadReport.Proofs.Layout.Labelling
import LoadReport.Proofs.Results.Origins

/-!
# Minus signs in labels

No value that is loaded is below zero, but negative zero is not below zero and keeps its sign in decimals.
Apart from literal text, this is the only way for a minus sign to get into a label
(`LabelFormat.minus_mem_render?_iff`).
-/

namespace LoadReport

open Json.Scanner (AreDigits Spelling areDigits_digits)

/-! ## Digits -/

namespace Decimal

theorem minus_not_mem_of_areDigits {text : List Char} (areDigits : AreDigits text) : '-' ∉ text :=
  fun member => nomatch areDigits _ member

theorem minus_mem_text_iff {spelling : Spelling} (wellFormed : spelling.WellFormed)
    (unscaled : spelling.exponent = none) : '-' ∈ spelling.text ↔ spelling.negative = true := by
  have whole := minus_not_mem_of_areDigits wellFormed.wholeDigits
  have fraction : '-' ∉ Spelling.fractionText spelling.fraction := by
    have digits := minus_not_mem_of_areDigits wellFormed.fractionDigits
    rw [Spelling.fractionText]
    split <;> simp [digits]
  rw [Spelling.text, unscaled]
  cases spelling.negative <;> simp [Spelling.signText, Spelling.exponentText, whole, fraction]

theorem minus_mem_fixed_iff (places : Nat) {value : Binary64} (isFinite : value.isFinite = true) :
    '-' ∈ (fixed places value).toList ↔ value.hasSign = true := by
  cases value with
  | infinite => cases isFinite
  | nan => cases isFinite
  | finite negative code =>
    rw [fixed_eq_text, String.toList_ofList]
    exact minus_mem_text_iff (rounds_fixed places negative code).wellFormed rfl

theorem minus_not_mem_natural (value : Nat) : '-' ∉ (natural value).toList := by
  rw [natural, String.toList_ofList]
  exact minus_not_mem_of_areDigits (areDigits_digits value)

theorem minus_not_mem_integer {value : Int} (nonneg : 0 ≤ value) : '-' ∉ (integer value).toList := by
  rw [integer, decide_eq_false (by omega)]
  exact minus_not_mem_natural _

end Decimal

/-! ## Labels -/

namespace LabelFormat

section

variable {value : Binary64} (isFinite : value.isFinite = true) (nonneg : 0 ≤ value)
include isFinite nonneg

theorem Piece.minus_mem_render?_iff {piece : Piece} {text : String}
    (rendered : piece.render? value = some text) :
    '-' ∈ text.toList ↔ piece = .literal '-' ∨ value = -0 ∧ ∃ places, piece = .fixed places := by
  cases piece with
  | literal character =>
    cases rendered
    simp [eq_comm]
  | fixed places =>
    obtain ⟨_, printed⟩ := Option.ite_none_right_eq_some.mp rendered
    obtain rfl := Option.some.inj printed
    rw [Decimal.minus_mem_fixed_iff places isFinite, ← Binary64.eq_neg_zero_iff nonneg]
    simp
  | integer =>
    cases rendered
    have none : '-' ∉ (Decimal.integer value.truncate).toList := by
      refine Decimal.minus_not_mem_integer ?_
      rw [Binary64.truncate_of_nonneg isFinite nonneg]
      exact Int.natCast_nonneg _
    simp [none]

theorem minus_mem_renderPieces?_iff {pieces : List Piece} {text : String}
    (rendered : renderPieces? value pieces = some text) :
    '-' ∈ text.toList ↔
      .literal '-' ∈ pieces ∨ value = -0 ∧ ∃ places, .fixed places ∈ pieces := by
  induction pieces generalizing text with
  | nil =>
    cases rendered
    simp
  | cons piece rest inductionHypothesis =>
    simp only [renderPieces?, Option.bind_eq_bind, Option.bind_eq_some_iff, Option.pure_def,
      Option.some.injEq] at rendered
    obtain ⟨front, frontRendered, back, backRendered, rfl⟩ := rendered
    rw [String.toList_append, List.mem_append,
      Piece.minus_mem_render?_iff isFinite nonneg frontRendered, inductionHypothesis backRendered]
    simp only [List.mem_cons]
    grind

/-- A label has a minus sign just if the literal text has one, or if the value is negative zero and is
written with decimals. -/
theorem minus_mem_render?_iff {format : LabelFormat} {text : String}
    (rendered : format.render? value = some text) :
    '-' ∈ text.toList ↔
      .literal '-' ∈ format.pieces ∨ value = -0 ∧ ∃ places, .fixed places ∈ format.pieces :=
  minus_mem_renderPieces?_iff isFinite nonneg rendered

end

theorem Token.minus_mem_text_iff (token : Token) : '-' ∈ token.text ↔ token.piece = .literal '-' := by
  cases token with
  | plain character _ => simp [text, piece, eq_comm]
  | percent | decimals | integer => simp [text, piece]
  | places digits _ areDigits _ =>
    simp [text, piece, Decimal.minus_not_mem_of_areDigits areDigits]

/-- Every minus sign in a specification is literal text. -/
theorem literal_minus_mem_iff {specification : String} {format : LabelFormat}
    (accepted : parse specification = .ok format) :
    .literal '-' ∈ format.pieces ↔ '-' ∈ specification.toList := by
  obtain ⟨tokens, spelled, _, rfl⟩ := parse_eq_ok_iff.mp accepted
  rw [spelled, texts, List.mem_flatMap, List.mem_map]
  simp only [Token.minus_mem_text_iff]

end LabelFormat

/-! ## Negative zeros -/

/-- In a file, negative zero is a number with a minus sign, and such a number that is found is negative
zero. -/
theorem Scenario.eq_neg_zero_iff_of_file {tree : FileTree} {label : String} {path : Path}
    {bytes : List UInt8} (stands : tree.find path = .ok (.file bytes)) {measurement : Measurement}
    (loaded : (load tree ⟨label, .file path⟩).outcome = .ok (.found measurement)) {metric : Metric}
    {value : Binary64} (measured : measurement.values.get metric = some value) :
    value = -0 ↔ ∃ numeral, .number numeral ∈ Json.tokens bytes ∧ numeral.negative = true ∧
      numeral.toBinary64? = some value := by
  obtain ⟨results, read, rfl, accepted⟩ := (load_file_found_iff tree label path measurement).mp loaded
  have nonneg := ((Measurement.check_eq_ok_iff _).mp accepted metric value measured).zero_le
  constructor
  · -- Plain zero may stand for a missing value, but negative zero has to be written.
    intro negativeZero
    have notZero : value ≠ 0 := by
      rw [negativeZero]
      decide +kernel
    have among := (Results.mem_numbers_of_measured measured).resolve_left notZero
    have text := (Results.readResults_eq_ok_iff_ofBytes stands results).mp read
    obtain ⟨numeral, inText, decoded⟩ :=
      (Results.numbers_of_ofBytes text value among).resolve_left notZero
    refine ⟨numeral, inText, ?_, decoded⟩
    rw [← Json.Numeral.hasSign_of_toBinary64? decoded nonneg]
    exact (Binary64.eq_neg_zero_iff nonneg).mp negativeZero
  · rintro ⟨numeral, _, negative, decoded⟩
    rw [Binary64.eq_neg_zero_iff nonneg, Json.Numeral.hasSign_of_toBinary64? decoded nonneg]
    exact negative

namespace Chart

variable {chart : Chart} {dataset : Dataset} {layout : Chart.Layout}

/-- A chart of measurements in range marks values in range. -/
theorem allowed_of_mem_marks
    (accepted : ∀ measurement ∈ dataset.measurements, measurement.check = .ok ())
    (laidOut : chart.layout? dataset = some layout) :
    ∀ mark ∈ layout.series.flatMap Series.marks, mark.2.isFinite = true ∧ 0 ≤ mark.2 := by
  obtain ⟨series, labels, drawn, _, rfl⟩ := (chart.layout?_eq_some_iff dataset layout).mp laidOut
  rw [marks_of_entries drawn]
  intro mark among
  obtain ⟨entry, member, placed⟩ := List.mem_flatMap.mp among
  refine (forall_placed_iff fun value => value.isFinite = true ∧ 0 ≤ value).mpr ?_ entry member mark
    placed
  intro metric _ measurement inside value measured
  have inRange := (Measurement.check_eq_ok_iff measurement).mp (accepted measurement inside)
  exact ⟨(inRange metric value measured).finite, (inRange metric value measured).zero_le⟩

/-- The labels of values that are loaded have a minus sign where the literal text of the format has one, and
where negative zero is written with decimals. In a file, negative zero has a minus sign too. -/
theorem minus_signs_come_from_text_and_negative_zeros
    (loaded : ∀ measurement ∈ dataset.measurements, ∃ tree scenario,
      (Scenario.load tree scenario).outcome = .ok (.found measurement))
    (laidOut : chart.layout? dataset = some layout) :
    List.Forall₂
        (fun mark label => label.Tells chart mark ∧
          ('-' ∈ label.text.toList ↔ .literal '-' ∈ chart.labelFormat.pieces ∨
            mark.2 = -0 ∧ ∃ places, .fixed places ∈ chart.labelFormat.pieces))
        (layout.series.flatMap Series.marks) layout.valueLabels ∧
      (∀ specification, LabelFormat.parse specification = .ok chart.labelFormat →
        (.literal '-' ∈ chart.labelFormat.pieces ↔ '-' ∈ specification.toList)) ∧
      ∀ measurement ∈ dataset.measurements, ∀ tree label path bytes,
        FileTree.find tree path = .ok (.file bytes) →
        (Scenario.load tree ⟨label, .file path⟩).outcome = .ok (.found measurement) →
        ∀ metric value, measurement.values.get metric = some value →
          (value = -0 ↔ ∃ numeral, .number numeral ∈ Json.tokens bytes ∧ numeral.negative = true ∧
            numeral.toBinary64? = some value) := by
  refine ⟨?_, fun specification => LabelFormat.literal_minus_mem_iff, ?_⟩
  · have accepted : ∀ measurement ∈ dataset.measurements, measurement.check = .ok () := by
      intro measurement inside
      obtain ⟨tree, scenario, found⟩ := loaded measurement inside
      exact (Scenario.load_found found).2
    have allowed := allowed_of_mem_marks accepted laidOut
    obtain ⟨series, labels, drawn, written, rfl⟩ :=
      (chart.layout?_eq_some_iff dataset layout).mp laidOut
    have told := labels_of_entries drawn written
    refine ((List.forall₂_and_left _ _).mpr ⟨allowed, told⟩).imp ?_
    rintro mark label ⟨⟨isFinite, nonneg⟩, tells⟩
    exact ⟨tells, LabelFormat.minus_mem_render?_iff isFinite nonneg tells.text⟩
  · intro measurement _ tree label path bytes stands found metric value measured
    exact Scenario.eq_neg_zero_iff_of_file stands found measured

/-- Results with a throughput below zero that is read as negative zero. -/
def signedZeroText : List UInt8 :=
  "\x7b\"throughput_tps\":-1e-400,\"abort_rate_pct\":0\x7d".toUTF8.data.toList

def signedZeroFolder : FileTree :=
  .holding [("zero.json", .file signedZeroText)]

/-- What is found in the file. -/
def signedZeroMeasurement : Measurement where
  scenario := "Uniform"
  values := ⟨some (-0), some 0, some 0⟩

/-- The texts of the labels that are laid out for what is found in the file. -/
def signedZeroLabels? (labelFormat : LabelFormat) : Option (List String) :=
  ((throughputChart .bar labelFormat).layout? ⟨[signedZeroMeasurement]⟩).map fun layout =>
    layout.valueLabels.map ValueLabel.text

theorem signedZeroMeasurement_found :
    (Scenario.load signedZeroFolder ⟨"Uniform", .file ⟨"zero.json"⟩⟩).outcome =
      .ok (.found signedZeroMeasurement) := by
  decide +kernel

/-- The whole part is written without a sign, although the number in the file has one. -/
theorem whole_part_of_negative_zero_has_no_minus :
    let wholePart : LabelFormat := ⟨"%d", [.integer]⟩
    signedZeroLabels? wholePart = some ["0"] ∧
      (∃ layout, (throughputChart .bar wholePart).layout? ⟨[signedZeroMeasurement]⟩ = some layout ∧
        ∀ label ∈ layout.valueLabels, '-' ∉ label.text.toList) ∧
      ∃ numeral, .number numeral ∈ Json.tokens signedZeroText ∧ numeral.negative = true ∧
        numeral.toBinary64? = some (-0) := by
  intro wholePart
  have written : signedZeroLabels? wholePart = some ["0"] := by decide +kernel
  obtain ⟨layout, laidOut, _⟩ := Option.map_eq_some_iff.mp written
  obtain ⟨labels, _, zeros⟩ := minus_signs_come_from_text_and_negative_zeros
    (List.forall_mem_singleton.mpr ⟨_, _, signedZeroMeasurement_found⟩) laidOut
  refine ⟨written, ⟨layout, laidOut, fun label inside => ?_⟩, ?_⟩
  · obtain ⟨mark, _, _, minus⟩ := Outcomes.exists_mem_of_forall₂ labels inside
    rw [minus]
    simp [throughputChart, wholePart]
  · exact (zeros signedZeroMeasurement List.mem_cons_self _ _ _ _ rfl signedZeroMeasurement_found
      .throughput _ rfl).mp rfl

/-- The literal text has no minus sign, but the label has one. -/
theorem negative_zero_is_labelled_with_minus :
    let percentage : LabelFormat := ⟨"%.1f%%", [.fixed 1, .literal '%']⟩
    (Scenario.load signedZeroFolder ⟨"Uniform", .file ⟨"zero.json"⟩⟩).outcome =
        .ok (.found signedZeroMeasurement) ∧
      LabelFormat.parse "%.1f%%" = .ok percentage ∧ '-' ∉ "%.1f%%".toList ∧
      signedZeroLabels? percentage = some ["-0.0%"] :=
  ⟨signedZeroMeasurement_found, by decide +kernel, by decide +kernel, by decide +kernel⟩

end Chart

end LoadReport
