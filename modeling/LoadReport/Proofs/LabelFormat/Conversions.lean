import LoadReport.Proofs.Decimal.Fixed
import LoadReport.Proofs.LabelFormat.Composition
import LoadReport.Proofs.Loading

/-!
# What conversions print

A conversion prints one text for a value, wherever it stands in a specification. For decimals this is the
value, correctly rounded. For `%d` it is the whole part of the value, but only as far as integers of 64 bits
go: from there on, all values are printed alike.
-/

namespace LoadReport.LabelFormat

open Json.Scanner (Spelling)

theorem render?_fixed {places : Nat} (writable : places ≤ writablePlaces) (value : Binary64) :
    (Piece.fixed places).render? value = some (Decimal.fixed places value) :=
  if_pos writable

namespace Token

/-- The number of decimals that a token asks for. -/
def places? : Token → Option Nat
  | .plain _ _ => none
  | .percent => none
  | .decimals => some 6
  | .places digits _ _ _ => some (Nat.ofDigitChars 10 digits 0)
  | .integer => none

/-- Between any other tokens, the token contributes the text to the label of the value. -/
def Prints (token : Token) (value : Binary64) (text : String) : Prop :=
  ∀ before after : List Token,
    ∃ format, parse (specificationOf (before ++ token :: after)) = .ok format ∧
      format.render? value = (written? value before).bind fun front =>
        (written? value after).map fun back => front ++ text ++ back

section

variable {token : Token} {value : Binary64} {text : String}

theorem isConversion_of_places {places : Nat} (asks : token.places? = some places) :
    token.isConversion = true := by
  cases token with
  | plain | percent | integer => cases asks
  | decimals | places => rfl

theorem write?_of_places {places : Nat} (asks : token.places? = some places)
    (writable : places ≤ writablePlaces) (value : Binary64) :
    token.write? value = some (Decimal.fixed places value) := by
  cases token with
  | plain | percent | integer => cases asks
  | decimals | places =>
    cases asks
    exact render?_fixed writable value

theorem prints_of_write? (converts : token.isConversion = true)
    (writes : token.write? value = some text) : token.Prints value text := by
  intro before after
  -- With this token alone there is a conversion, so any row of tokens around it is a specification.
  have varies : ¬ Constant (before ++ token :: after) := fun constant =>
    Bool.false_ne_true ((constant token (by simp)).symm.trans converts)
  obtain ⟨format, accepted, labels⟩ := exists_format varies
  refine ⟨format, accepted, ?_⟩
  have tail : written? value (token :: after) = (written? value after).map (text ++ ·) := by
    rw [written?, writes, Option.map_eq_bind]
    rfl
  rw [labels, written?_append, tail]
  cases written? value before with
  | none => rfl
  | some front => cases written? value after <;> simp [String.append_assoc]

/-- There is only one text that a token prints for a value. -/
theorem Prints.unique {other : String} (prints : token.Prints value text)
    (otherPrints : token.Prints value other) : text = other := by
  obtain ⟨format, accepted, label⟩ := prints [] []
  obtain ⟨same, sameAccepted, otherLabel⟩ := otherPrints [] []
  cases accepted.symm.trans sameAccepted
  simpa [written?] using label.symm.trans otherLabel

end

end Token

/-! ## Decimals -/

theorem prints_fixedSpelling {token : Token} {places : Nat} (asks : token.places? = some places)
    (writable : places ≤ writablePlaces) (negative : Bool) (code : Fin Binary64.codeLimit) :
    token.Prints (.finite negative code)
      (String.ofList (Decimal.fixedSpelling places negative code).text) := by
  refine Token.prints_of_write? (Token.isConversion_of_places asks) ?_
  rw [Token.write?_of_places asks writable, Decimal.fixed_eq_text]

/-- A conversion to decimals prints a finite value as its exact value correctly rounded, a half to the even
digit, with all the decimals it asks for. So what is printed is within half a unit of the last decimal, and
larger values are never printed as smaller numbers. -/
theorem decimals_are_correctly_rounded {token : Token} {places : Nat}
    (asks : token.places? = some places) (writable : places ≤ 65535) :
    ∃ spelled : Binary64 → Spelling, ∀ value : Binary64, value.isFinite = true →
      token.Prints value (String.ofList (spelled value).text) ∧
      Decimal.Rounds places value (spelled value) ∧
      |(spelled value).toRat - value.toRat| ≤ 1 / 2 / 10 ^ places ∧
      ∀ other : Binary64, other.isFinite = true → value ≤ other →
        (spelled value).toRat ≤ (spelled other).toRat := by
  have written : ∀ value : Binary64, ∃ spelling : Spelling, value.isFinite = true →
      token.Prints value (String.ofList spelling.text) ∧ Decimal.Rounds places value spelling := by
    intro value
    cases value with
    | finite negative code =>
      exact ⟨_, fun _ => ⟨prints_fixedSpelling asks writable negative code,
        Decimal.rounds_fixed places negative code⟩⟩
    | infinite | nan => exact ⟨⟨false, [], [], none⟩, nofun⟩
  choose spelled prints using written
  refine ⟨spelled, fun value isFinite => ?_⟩
  obtain ⟨printed, rounds⟩ := prints value isFinite
  refine ⟨printed, rounds, rounds.abs_sub_le isFinite, fun other otherFinite order => ?_⟩
  exact rounds.mono (prints other otherFinite).2 isFinite otherFinite order

/-- The conversion `%.2f`. -/
def hundredths : Token :=
  .places ['2'] (by decide) (List.forall_mem_singleton.mpr rfl) (by decide)

/-- An eighth lies in the middle between two numbers with two decimals. -/
theorem eighth_is_rounded_to_even_hundredths :
    hundredths.places? = some 2 ∧ 2 ≤ 65535 ∧ (0.125 : Binary64).isFinite = true ∧
      hundredths.Prints 0.125 "0.12" ∧
      ∃ spelling, String.ofList (Spelling.text spelling) = "0.12" ∧
        Decimal.Rounds 2 0.125 spelling := by
  have asks : hundredths.places? = some 2 := by decide
  have isFinite : (0.125 : Binary64).isFinite = true := by decide +kernel
  have printed : hundredths.Prints 0.125 "0.12" :=
    Token.prints_of_write? rfl (by decide +kernel)
  obtain ⟨spelled, prints⟩ := decimals_are_correctly_rounded asks (by decide)
  obtain ⟨text, rounds, _⟩ := prints 0.125 isFinite
  exact ⟨asks, by decide, isFinite, printed, spelled 0.125, text.unique printed, rounds⟩

/-! ## Whole parts -/

/-- What `%d` prints for a number from zero on. -/
theorem prints_integer {value : Binary64} (isFinite : value.isFinite = true) (nonneg : 0 ≤ value) :
    Token.integer.Prints value (toString (min ⌊value.toRat⌋₊ (twoTo 63 - 1))) := by
  refine Token.prints_of_write? rfl ?_
  have held : Token.integer.write? value = some (Decimal.integer value.truncate) := rfl
  rw [held, Binary64.truncate_of_nonneg isFinite nonneg, Decimal.integer, Int.natAbs_natCast,
    Decimal.natural_eq_toString, decide_eq_false (by omega)]
  rfl

theorem integer_prints_iff {value : Binary64} (isFinite : value.isFinite = true)
    (nonneg : 0 ≤ value) (shown : Nat) :
    Token.integer.Prints value (toString shown) ↔ shown = min ⌊value.toRat⌋₊ (twoTo 63 - 1) := by
  have prints := prints_integer isFinite nonneg
  constructor
  · exact fun printed => Decimal.toString_injective (printed.unique prints)
  · rintro rfl
    exact prints

/-- For the values that metrics have, `%d` prints the whole part exactly up to the largest integer, which it
prints for all greater values. -/
theorem whole_parts_are_printed_up_to_largest_integer {measurement another : Measurement}
    {metric otherMetric : Metric} {value other : Binary64} (accepted : measurement.check = .ok ())
    (measured : measurement.values.get metric = some value)
    (otherAccepted : another.check = .ok ())
    (otherMeasured : another.values.get otherMetric = some other) :
    Token.integer.Prints value (toString (min ⌊value.toRat⌋₊ (twoTo 63 - 1))) ∧
    (Token.integer.Prints value (toString ⌊value.toRat⌋₊) ↔ value.toRat < twoTo 63) ∧
    ((∃ text, Token.integer.Prints value text ∧ Token.integer.Prints other text) ↔
      ⌊value.toRat⌋₊ = ⌊other.toRat⌋₊ ∨
        twoTo 63 - 1 ≤ ⌊value.toRat⌋₊ ∧ twoTo 63 - 1 ≤ ⌊other.toRat⌋₊) := by
  have inRange := (Measurement.check_eq_ok_iff measurement).mp accepted metric value measured
  have otherInRange := (Measurement.check_eq_ok_iff another).mp otherAccepted otherMetric other otherMeasured
  have prints := prints_integer inRange.finite inRange.zero_le
  have otherPrints := prints_integer otherInRange.finite otherInRange.zero_le
  refine ⟨prints, ?_, ?_⟩
  · have below : value.toRat < twoTo 63 ↔ ⌊value.toRat⌋₊ < twoTo 63 :=
      (Nat.floor_lt (Binary64.toRat_nonneg inRange.zero_le)).symm
    have positive : 0 < twoTo 63 := twoTo_pos 63
    rw [integer_prints_iff inRange.finite inRange.zero_le, below]
    omega
  · -- A label is one text, so the labels agree where the numbers in them do.
    have same : (∃ text, Token.integer.Prints value text ∧ Token.integer.Prints other text) ↔
        min ⌊value.toRat⌋₊ (twoTo 63 - 1) = min ⌊other.toRat⌋₊ (twoTo 63 - 1) := by
      rw [← integer_prints_iff otherInRange.finite otherInRange.zero_le]
      constructor
      · rintro ⟨text, printed, otherPrinted⟩
        rwa [prints.unique printed]
      · exact fun otherPrinted => ⟨_, prints, otherPrinted⟩
    rw [same]
    omega

/-- A measurement of nothing but the throughput. -/
def throughputOf (value : Binary64) : Measurement where
  scenario := "Uniform"
  values := Values.none.set .throughput value

theorem fraction_is_not_printed :
    (throughputOf 326.5).check = .ok () ∧ (throughputOf 326.25).check = .ok () ∧
      Token.integer.Prints 326.5 "326" ∧
      ∃ text, Token.integer.Prints 326.5 text ∧ Token.integer.Prints 326.25 text := by
  have accepted : (throughputOf 326.5).check = .ok () := by decide +kernel
  have otherAccepted : (throughputOf 326.25).check = .ok () := by decide +kernel
  have whole : ⌊(326.5 : Binary64).toRat⌋₊ = 326 := by
    rw [Binary64.floor_toRat]
    decide +kernel
  have otherWhole : ⌊(326.25 : Binary64).toRat⌋₊ = 326 := by
    rw [Binary64.floor_toRat]
    decide +kernel
  obtain ⟨prints, _, alike⟩ := whole_parts_are_printed_up_to_largest_integer accepted
    (Values.get_set_self _ .throughput _) otherAccepted (Values.get_set_self _ .throughput _)
  rw [whole] at prints
  exact ⟨accepted, otherAccepted, prints, alike.mpr (.inl (whole.trans otherWhole.symm))⟩

/-- Two measurements that are accepted, with different whole parts and one label. -/
theorem greater_throughputs_share_label :
    (throughputOf 1e19).check = .ok () ∧ (throughputOf 2e19).check = .ok () ∧
      ⌊(1e19 : Binary64).toRat⌋₊ = 10000000000000000000 ∧
      ⌊(2e19 : Binary64).toRat⌋₊ = 20000000000000000000 ∧
      Token.integer.Prints 1e19 "9223372036854775807" ∧
      Token.integer.Prints 2e19 "9223372036854775807" := by
  refine ⟨by decide +kernel, by decide +kernel, ?_, ?_,
    Token.prints_of_write? rfl (by decide +kernel), Token.prints_of_write? rfl (by decide +kernel)⟩
  · rw [Binary64.floor_toRat]
    decide +kernel
  · rw [Binary64.floor_toRat]
    decide +kernel

end LoadReport.LabelFormat
