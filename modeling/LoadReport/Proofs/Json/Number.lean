import LoadReport.Proofs.Json.Spelling

/-!
# Which texts are numbers

The grammar of numbers, said without the scanner. The text of a number leads the scanner to a place
where a number may end (`leads_number`), and where the scanner may end a number it has read the text
of one (`Begins.next`, `exists_isNumber`).
-/

namespace LoadReport.Json

open Scanner (Spelling NumberPhase IsAscii IsMark AreDigits Leads exponentValue inOrder)

/-- The sign of an exponent, which may be left out. -/
def exponentSign : Option Bool → List Char
  | none => []
  | some shrinks => [if shrinks then '-' else '+']

/-- The texts of a number: digits without superfluous leading zeros, with a sign, a fraction and an
exponent or without. -/
inductive IsNumber : Numeral → List Char → Prop where
  | plain {spelling : Spelling} (wellFormed : spelling.WellFormed)
      (unscaled : spelling.exponent = none) : IsNumber spelling.numeral spelling.text
  | scaled {spelling : Spelling} (wellFormed : spelling.WellFormed)
      (unscaled : spelling.exponent = none) {mark : Char} (isMark : IsMark mark)
      (sign : Option Bool) {digits : List Char} (present : digits ≠ [])
      (areDigits : AreDigits digits) :
      IsNumber
        { spelling.numeral with
          exponent := some (exponentValue (sign.getD false) (Nat.ofDigitChars 10 digits 0)) }
        (spelling.text ++ mark :: (exponentSign sign ++ digits))

namespace Scanner

theorem leads_mantissa {spelling : Spelling} (wellFormed : spelling.WellFormed)
    (unscaled : spelling.exponent = none) :
    ∃ phase read, (IsBehindWhole phase ∨ phase = .fraction) ∧
      inOrder read = spelling.numeral ∧ Leads .between spelling.text (.number phase read) := by
  obtain ⟨phase, behind, whole⟩ := leads_whole_part wellFormed
  obtain ⟨next, behindNext, fraction⟩ :=
    leads_fraction_part behind wellFormed.fractionDigits spelling.negative
      (spelling.whole.map digitValue).reverse
  refine ⟨next, { numeral spelling.negative (spelling.whole.map digitValue).reverse with
    fraction := (spelling.fraction.map digitValue).reverse }, behindNext, ?_, ?_⟩
  · simp [inOrder, numeral, Spelling.numeral, unscaled]
  · simpa [Spelling.text, Spelling.exponentText, unscaled] using whole.append fraction

theorem isFinal_of_behind {phase : NumberPhase} (behind : IsBehindWhole phase ∨ phase = .fraction) :
    phase.isFinal = true := by
  rcases behind with (rfl | rfl) | rfl <;> rfl

theorem leads_mark {phase : NumberPhase} (behind : IsBehindWhole phase ∨ phase = .fraction)
    {mark : Char} (isMark : IsMark mark) (read : Numeral) :
    Leads (.number phase read) [mark] (.number .mark read) := by
  rcases isMark with rfl | rfl <;> rcases behind with (rfl | rfl) | rfl <;> rfl

theorem not_sign_of_isDigit {character : Char} (digit : character.isDigit = true) :
    character ≠ '+' ∧ character ≠ '-' := by
  constructor
  · rintro rfl
    cases digit
  · rintro rfl
    cases digit

/-- The digits of an exponent, behind its sign or without one. -/
theorem leads_signed_digits (sign : Option Bool) {digits : List Char} (present : digits ≠ [])
    (areDigits : AreDigits digits) (read : Numeral) :
    Leads (.number .mark read) (exponentSign sign ++ digits)
      (.number (.exponent (sign.getD false))
        { read with
          exponent := some (exponentValue (sign.getD false) (Nat.ofDigitChars 10 digits 0)) }) := by
  cases sign with
  | some shrinks =>
    have signed : Leads (.number .mark read) (exponentSign (some shrinks))
        (.number (.markSign shrinks) read) := by
      cases shrinks <;> rfl
    exact signed.append (leads_exponent_digits shrinks present areDigits read)
  | none =>
    -- The first digit stands where a sign could have stood.
    obtain ⟨first, rest, rfl⟩ := List.exists_cons_of_ne_nil present
    obtain ⟨digit, others⟩ := List.forall_mem_cons.mp areDigits
    obtain ⟨notPlus, notMinus⟩ := not_sign_of_isDigit digit
    have entered : NumberPhase.mark.next? first read = some (.exponent false,
        { read with exponent := some (exponentValue false (digitValue first)) }) := by
      simp [NumberPhase.next?, NumberPhase.next?.digit?, notPlus, notMinus, digit, exponentValue]
    have leads := (Leads.number (isAscii_of_isDigit digit) entered).cons
      (leads_exponent others false read (digitValue first))
    rwa [Nat.ofDigitChars_cons, Nat.mul_zero, Nat.zero_add]

theorem leads_number {numeral : Numeral} {text : List Char} (number : IsNumber numeral text) :
    ∃ phase read, phase.isFinal = true ∧ inOrder read = numeral ∧
      Leads .between text (.number phase read) := by
  cases number with
  | plain wellFormed unscaled =>
    obtain ⟨phase, read, behind, equal, leads⟩ := leads_mantissa wellFormed unscaled
    exact ⟨phase, read, isFinal_of_behind behind, equal, leads⟩
  | scaled wellFormed unscaled isMark sign present areDigits =>
    obtain ⟨phase, read, behind, equal, leads⟩ := leads_mantissa wellFormed unscaled
    refine ⟨_, _, ?_, ?_, leads.append ((leads_mark behind isMark read).cons
      (leads_signed_digits sign present areDigits read))⟩
    · rfl
    · rw [← equal]
      rfl

/-! ### What the scanner has read of a number -/

/-- The texts that lead to a phase of a number. -/
inductive Begins : NumberPhase → List Char → Prop where
  | sign : Begins .sign ['-']
  | zero (negative : Bool) : Begins .zero (Spelling.signText negative ++ ['0'])
  | whole (negative : Bool) {first : Char} {rest : List Char} (notZero : first ≠ '0')
      (digits : AreDigits (first :: rest)) :
      Begins .whole (Spelling.signText negative ++ first :: rest)
  | point {spelling : Spelling} (wellFormed : spelling.WellFormed)
      (unscaled : spelling.exponent = none) (whole : spelling.fraction = []) :
      Begins .point (spelling.text ++ ['.'])
  | fraction {spelling : Spelling} (wellFormed : spelling.WellFormed)
      (unscaled : spelling.exponent = none) (present : spelling.fraction ≠ []) :
      Begins .fraction spelling.text
  | mark {spelling : Spelling} (wellFormed : spelling.WellFormed)
      (unscaled : spelling.exponent = none) {mark : Char} (isMark : IsMark mark) :
      Begins .mark (spelling.text ++ [mark])
  | markSign {spelling : Spelling} (wellFormed : spelling.WellFormed)
      (unscaled : spelling.exponent = none) {mark : Char} (isMark : IsMark mark) (shrinks : Bool) :
      Begins (.markSign shrinks) (spelling.text ++ mark :: exponentSign (some shrinks))
  | exponent {spelling : Spelling} (wellFormed : spelling.WellFormed)
      (unscaled : spelling.exponent = none) {mark : Char} (isMark : IsMark mark)
      (sign : Option Bool) {digits : List Char} (present : digits ≠ [])
      (areDigits : AreDigits digits) :
      Begins (.exponent (sign.getD false)) (spelling.text ++ mark :: (exponentSign sign ++ digits))

theorem areDigits_singleton {character : Char} (digit : character.isDigit = true) :
    AreDigits [character] :=
  List.forall_mem_singleton.mpr digit

theorem wellFormed_zero (negative : Bool) : Spelling.WellFormed ⟨negative, ['0'], [], none⟩ :=
  ⟨.inl rfl, areDigits_singleton rfl, areDigits_nil⟩

theorem wellFormed_whole (negative : Bool) {first : Char} {rest : List Char}
    (notZero : first ≠ '0') (digits : AreDigits (first :: rest)) :
    Spelling.WellFormed ⟨negative, first :: rest, [], none⟩ :=
  ⟨.inr ⟨first, rest, rfl, notZero⟩, digits, areDigits_nil⟩

theorem wellFormed_fraction {spelling : Spelling} (wellFormed : spelling.WellFormed)
    {fraction : List Char} (digits : AreDigits fraction) :
    Spelling.WellFormed ⟨spelling.negative, spelling.whole, fraction, none⟩ :=
  ⟨wellFormed.whole, wellFormed.wholeDigits, digits⟩

theorem text_unscaled {spelling : Spelling} (unscaled : spelling.exponent = none) :
    spelling.text = Spelling.signText spelling.negative ++ spelling.whole ++
      Spelling.fractionText spelling.fraction := by
  simp [Spelling.text, unscaled, Spelling.exponentText]

theorem exists_whole_of_behind {phase : NumberPhase} (behind : IsBehindWhole phase)
    {text : List Char} (begins : Begins phase text) :
    ∃ spelling : Spelling, spelling.WellFormed ∧ spelling.exponent = none ∧
      spelling.fraction = [] ∧ text = spelling.text := by
  rcases behind with rfl | rfl
  · cases begins with
    | zero negative =>
      refine ⟨_, wellFormed_zero negative, rfl, rfl, ?_⟩
      simp [text_unscaled, Spelling.fractionText]
  · cases begins with
    | whole negative notZero digits =>
      refine ⟨_, wellFormed_whole negative notZero digits, rfl, rfl, ?_⟩
      simp [text_unscaled, Spelling.fractionText]

theorem exists_isNumber {phase : NumberPhase} (final : phase.isFinal = true) {text : List Char}
    (begins : Begins phase text) : ∃ numeral, IsNumber numeral text := by
  cases phase with
  | zero | whole =>
    obtain ⟨spelling, wellFormed, unscaled, _, rfl⟩ :=
      exists_whole_of_behind (by simp [IsBehindWhole]) begins
    exact ⟨_, .plain wellFormed unscaled⟩
  | fraction =>
    cases begins with
    | fraction wellFormed unscaled present => exact ⟨_, .plain wellFormed unscaled⟩
  | exponent shrinks =>
    cases begins with
    | exponent wellFormed unscaled isMark sign present areDigits =>
      exact ⟨_, .scaled wellFormed unscaled isMark sign present areDigits⟩
  | sign | point | mark | markSign => cases final

theorem isAscii_of_isMark {character : Char} (isMark : IsMark character) : IsAscii character := by
  rcases isMark with rfl | rfl <;> decide

theorem Begins.after {phase next : NumberPhase} (behind : IsBehindWhole phase) {text : List Char}
    (begins : Begins phase text) {character : Char}
    (after : NumberPhase.afterWhole? character = some next) :
    IsAscii character ∧ Begins next (text ++ [character]) := by
  obtain ⟨spelling, wellFormed, unscaled, whole, rfl⟩ := exists_whole_of_behind behind begins
  simp only [NumberPhase.afterWhole?] at after
  split at after
  next point =>
    cases after
    subst point
    exact ⟨by decide, .point wellFormed unscaled whole⟩
  next =>
    split at after
    next isMark =>
      cases after
      exact ⟨isAscii_of_isMark isMark, .mark wellFormed unscaled isMark⟩
    next => cases after

theorem exponent_of_digit? {character : Char} {read extended : Numeral} {shrinks : Bool}
    {value : Int} {next : NumberPhase}
    (taken : NumberPhase.next?.digit? character read shrinks value = some (next, extended)) :
    character.isDigit = true ∧ next = .exponent shrinks := by
  simp only [NumberPhase.next?.digit?] at taken
  split at taken
  next digit =>
    cases taken
    exact ⟨digit, rfl⟩
  next => cases taken

section

variable {onward : NumberPhase} {text : List Char} {character : Char} {read extended : Numeral}

theorem Begins.next_whole (begins : Begins .whole text)
    (step : NumberPhase.whole.next? character read = some (onward, extended)) :
    IsAscii character ∧ Begins onward (text ++ [character]) := by
  simp only [NumberPhase.next?] at step
  split at step
  next digit =>
    cases step
    cases begins with
    | whole negative notZero digits =>
      have more := digits.append (areDigits_singleton digit)
      refine ⟨isAscii_of_isDigit digit, ?_⟩
      rw [List.append_assoc]
      exact .whole negative notZero more
  next =>
    obtain ⟨after, found, equal⟩ := Option.map_eq_some_iff.mp step
    cases equal
    exact begins.after (.inr rfl) found

/-- The first digit behind the point: the fraction was empty before. -/
theorem Begins.next_point (begins : Begins .point text)
    (step : NumberPhase.point.next? character read = some (onward, extended)) :
    IsAscii character ∧ Begins onward (text ++ [character]) := by
  simp only [NumberPhase.next?] at step
  split at step
  next digit =>
    cases step
    cases begins with
    | point wellFormed unscaled whole =>
      have more := wellFormed_fraction wellFormed (areDigits_singleton digit)
      refine ⟨isAscii_of_isDigit digit, ?_⟩
      have begun := Begins.fraction more rfl (List.cons_ne_nil _ _)
      simpa [text_unscaled, unscaled, whole, Spelling.fractionText] using begun
  next => cases step

theorem Begins.next_fraction (begins : Begins .fraction text)
    (step : NumberPhase.fraction.next? character read = some (onward, extended)) :
    IsAscii character ∧ Begins onward (text ++ [character]) := by
  cases begins with
  | fraction wellFormed unscaled present =>
    simp only [NumberPhase.next?] at step
    split at step
    next digit =>
      cases step
      have more := wellFormed_fraction wellFormed
        (wellFormed.fractionDigits.append (areDigits_singleton digit))
      refine ⟨isAscii_of_isDigit digit, ?_⟩
      have begun := Begins.fraction more rfl (List.append_ne_nil_of_left_ne_nil present _)
      simpa [text_unscaled, unscaled, present, Spelling.fractionText] using begun
    next =>
      split at step
      next isMark =>
        cases step
        exact ⟨isAscii_of_isMark isMark, .mark wellFormed unscaled isMark⟩
      next => cases step

/-- Behind the mark stands a sign, or the first digit of an exponent without one. -/
theorem Begins.next_mark (begins : Begins .mark text)
    (step : NumberPhase.mark.next? character read = some (onward, extended)) :
    IsAscii character ∧ Begins onward (text ++ [character]) := by
  cases begins with
  | mark wellFormed unscaled isMark =>
    rw [List.append_assoc, List.singleton_append]
    simp only [NumberPhase.next?] at step
    split at step
    next plus =>
      cases step
      subst plus
      exact ⟨by decide, .markSign wellFormed unscaled isMark false⟩
    next =>
      split at step
      next minus =>
        cases step
        subst minus
        exact ⟨by decide, .markSign wellFormed unscaled isMark true⟩
      next =>
        obtain ⟨digit, rfl⟩ := exponent_of_digit? step
        exact ⟨isAscii_of_isDigit digit, .exponent wellFormed unscaled isMark none
          (List.cons_ne_nil _ _) (areDigits_singleton digit)⟩

/-- A character that goes on with the number leads to a text of the next phase. -/
theorem Begins.next {phase : NumberPhase} (begins : Begins phase text)
    (step : phase.next? character read = some (onward, extended)) :
    IsAscii character ∧ Begins onward (text ++ [character]) := by
  cases phase with
  | sign =>
    cases begins
    simp only [NumberPhase.next?] at step
    split at step
    next zero =>
      cases step
      subst zero
      exact ⟨by decide, .zero true⟩
    next notZero =>
      split at step
      next digit =>
        cases step
        exact ⟨isAscii_of_isDigit digit, .whole true notZero (areDigits_singleton digit)⟩
      next => cases step
  | zero =>
    obtain ⟨after, found, equal⟩ := Option.map_eq_some_iff.mp step
    cases equal
    exact begins.after (.inl rfl) found
  | whole => exact begins.next_whole step
  | point => exact begins.next_point step
  | fraction => exact begins.next_fraction step
  | mark => exact begins.next_mark step
  | markSign shrinks =>
    cases begins with
    | markSign wellFormed unscaled isMark =>
      obtain ⟨digit, rfl⟩ := exponent_of_digit? step
      refine ⟨isAscii_of_isDigit digit, ?_⟩
      rw [List.append_assoc]
      exact .exponent wellFormed unscaled isMark (some shrinks) (List.cons_ne_nil _ _)
        (areDigits_singleton digit)
  | exponent shrinks =>
    cases begins with
    | exponent wellFormed unscaled isMark sign present areDigits =>
      obtain ⟨digit, rfl⟩ := exponent_of_digit? step
      refine ⟨isAscii_of_isDigit digit, ?_⟩
      rw [List.append_assoc, List.cons_append, List.append_assoc]
      exact .exponent wellFormed unscaled isMark sign
        (List.append_ne_nil_of_left_ne_nil present _) (areDigits.append (areDigits_singleton digit))

end

end Scanner

end LoadReport.Json
