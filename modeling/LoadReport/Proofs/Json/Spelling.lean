import LoadReport.Decimal.Digits
import LoadReport.Json.Scanner

/-!
# How the scanner reads numbers

A number is spelled with the digits before the point, those behind it and an exponent with a sign. The
scanner reads the spelling to its end without completing a token, and the next character that cannot
belong to the number completes it. Where the digits fit the significand, the number that is read has the
value of the digits.
-/

namespace LoadReport.Json.Scanner

/-- The bytes of a text. -/
def bytesOf (text : List Char) : List UInt8 :=
  text.flatMap String.utf8EncodeChar

@[simp] theorem bytesOf_nil : bytesOf [] = [] :=
  rfl

@[simp] theorem bytesOf_append (first second : List Char) :
    bytesOf (first ++ second) = bytesOf first ++ bytesOf second :=
  List.flatMap_append

/-- The scanner goes from one state to another over a text and completes no token. -/
def Leads (state : State) (text : List Char) (next : State) : Prop :=
  advance state (bytesOf text) = ([], next)

theorem Leads.nil (state : State) : Leads state [] state :=
  rfl

theorem Leads.append {state next last : State} {first second : List Char}
    (leads : Leads state first next) (leadsOn : Leads next second last) :
    Leads state (first ++ second) last := by
  rw [Leads] at leads leadsOn ⊢
  rw [bytesOf_append, advance_append, leads, leadsOn]
  rfl

/-- Characters with a single byte. -/
def IsAscii (character : Char) : Prop :=
  character.toNat < 128

instance (character : Char) : Decidable (IsAscii character) :=
  inferInstanceAs (Decidable (character.toNat < 128))

theorem utf8EncodeChar_of_ascii {character : Char} (ascii : IsAscii character) :
    String.utf8EncodeChar character = [UInt8.ofNat character.toNat] :=
  if_pos (Nat.le_of_lt_succ ascii)

theorem toNat_ofUInt8 (byte : UInt8) : (Char.ofUInt8 byte).toNat = byte.toNat :=
  UInt8.toNat_toUInt32 byte

theorem ofUInt8_ofNat_toNat {character : Char} (ascii : IsAscii character) :
    Char.ofUInt8 (UInt8.ofNat character.toNat) = character := by
  have small : character.toNat < 256 := Nat.lt_trans ascii (by decide)
  rw [← Char.toNat_inj, toNat_ofUInt8, UInt8.toNat_ofNat_of_lt' small]

theorem isAscii_of_isDigit {character : Char} (digit : character.isDigit = true) :
    IsAscii character := by
  have range := Char.isDigit_iff_toNat.mp digit
  exact Nat.lt_of_le_of_lt range.2 (by decide)

/-- One character that does not end the number. -/
theorem Leads.number {phase next : NumberPhase} {read extended : Numeral} {character : Char}
    (ascii : IsAscii character) (step : phase.next? character read = some (next, extended)) :
    Leads (.number phase read) [character] (.number next extended) := by
  simp [Leads, bytesOf, advance, utf8EncodeChar_of_ascii ascii, Scanner.step,
    ofUInt8_ofNat_toNat ascii, stepNumber, step]

/-- The first character of a number. -/
theorem Leads.between {next : State} {character : Char} (ascii : IsAscii character)
    (step : stepBetween character = ([], next)) : Leads .between [character] next := by
  simp [Leads, bytesOf, advance, utf8EncodeChar_of_ascii ascii, Scanner.step,
    ofUInt8_ofNat_toNat ascii, step]

/-! ## Digits -/

/-- Digits in the order of a text, all of them decimal. -/
def AreDigits (text : List Char) : Prop :=
  ∀ character ∈ text, character.isDigit = true

theorem areDigits_nil : AreDigits [] :=
  List.forall_mem_nil _

theorem AreDigits.append {first second : List Char} (digits : AreDigits first)
    (others : AreDigits second) : AreDigits (first ++ second) :=
  fun character member => (List.mem_append.mp member).elim (digits character) (others character)

theorem areDigits_digits (value : Nat) : AreDigits (Decimal.digits value) :=
  fun _ member => Nat.isDigit_of_mem_toDigits (by decide) (by decide) member

theorem areDigits_zeros (count : Nat) : AreDigits (List.replicate count '0') := by
  intro character member
  rw [List.eq_of_mem_replicate member]
  rfl

theorem Leads.cons {state next last : State} {character : Char} {rest : List Char}
    (leads : Leads state [character] next) (leadsOn : Leads next rest last) :
    Leads state (character :: rest) last :=
  leads.append leadsOn

theorem leads_whole {text : List Char} (digits : AreDigits text) (read : Numeral) :
    Leads (.number .whole read) text
      (.number .whole { read with whole := (text.map digitValue).reverse ++ read.whole }) := by
  induction text generalizing read with
  | nil => exact Leads.nil _
  | cons character rest inductionHypothesis =>
    obtain ⟨digit, others⟩ := List.forall_mem_cons.mp digits
    have first : NumberPhase.whole.next? character read =
        some (.whole, { read with whole := digitValue character :: read.whole }) := by
      simp only [NumberPhase.next?, digit, if_true]
    have leads := (Leads.number (isAscii_of_isDigit digit) first).cons (inductionHypothesis others _)
    simpa using leads

theorem leads_fraction {text : List Char} (digits : AreDigits text) (read : Numeral) :
    Leads (.number .fraction read) text
      (.number .fraction
        { read with fraction := (text.map digitValue).reverse ++ read.fraction }) := by
  induction text generalizing read with
  | nil => exact Leads.nil _
  | cons character rest inductionHypothesis =>
    obtain ⟨digit, others⟩ := List.forall_mem_cons.mp digits
    have first : NumberPhase.fraction.next? character read =
        some (.fraction, { read with fraction := digitValue character :: read.fraction }) := by
      simp only [NumberPhase.next?, digit, if_true]
    have leads := (Leads.number (isAscii_of_isDigit digit) first).cons (inductionHypothesis others _)
    simpa using leads

/-- An exponent with the given sign and size. -/
def exponentValue (shrinks : Bool) (size : Nat) : Int :=
  if shrinks then -size else size

theorem leads_exponent {text : List Char} (digits : AreDigits text) (shrinks : Bool)
    (read : Numeral) (size : Nat) :
    Leads (.number (.exponent shrinks) { read with exponent := some (exponentValue shrinks size) })
      text
      (.number (.exponent shrinks)
        { read with exponent := some (exponentValue shrinks (Nat.ofDigitChars 10 text size)) }) := by
  induction text generalizing size with
  | nil => exact Leads.nil _
  | cons character rest inductionHypothesis =>
    obtain ⟨digit, others⟩ := List.forall_mem_cons.mp digits
    have extended : (if shrinks then exponentValue shrinks size * 10 - digitValue character
        else exponentValue shrinks size * 10 + digitValue character) =
          exponentValue shrinks (10 * size + digitValue character) := by
      cases shrinks <;> simp [exponentValue] <;> omega
    have first : (NumberPhase.exponent shrinks).next? character
        { read with exponent := some (exponentValue shrinks size) } =
        some (.exponent shrinks, { read with
          exponent := some (exponentValue shrinks (10 * size + digitValue character)) }) := by
      simp only [NumberPhase.next?, NumberPhase.next?.digit?, digit, if_true, Option.getD_some,
        extended]
    rw [Nat.ofDigitChars_cons]
    exact (Leads.number (isAscii_of_isDigit digit) first).cons (inductionHypothesis others _)

/-! ## Numbers -/

/-- The parts of a number in a text. An exponent always has a sign. -/
structure Spelling where
  negative : Bool
  whole : List Char
  fraction : List Char
  exponent : Option (Bool × Nat)

namespace Spelling

def signText (negative : Bool) : List Char :=
  if negative then ['-'] else []

def fractionText (fraction : List Char) : List Char :=
  if fraction = [] then [] else '.' :: fraction

def exponentText : Option (Bool × Nat) → List Char
  | none => []
  | some (shrinks, size) => 'e' :: (if shrinks then '-' else '+') :: Decimal.digits size

def text (spelling : Spelling) : List Char :=
  signText spelling.negative ++ spelling.whole ++ fractionText spelling.fraction ++
    exponentText spelling.exponent

/-- The number that the text stands for. -/
def numeral (spelling : Spelling) : Numeral where
  negative := spelling.negative
  whole := spelling.whole.map digitValue
  fraction := spelling.fraction.map digitValue
  exponent := spelling.exponent.map fun part => exponentValue part.1 part.2

/-- There are digits only, and no superfluous leading zeros. -/
structure WellFormed (spelling : Spelling) : Prop where
  whole : spelling.whole = ['0'] ∨ ∃ first rest, spelling.whole = first :: rest ∧ first ≠ '0'
  wholeDigits : AreDigits spelling.whole
  fractionDigits : AreDigits spelling.fraction

end Spelling

/-- The phases behind the digits before the point. -/
def IsBehindWhole (phase : NumberPhase) : Prop :=
  phase = .zero ∨ phase = .whole

theorem digit_eq {character : Char} (digit : character.isDigit = true) :
    ∃ value < 10, character = Nat.digitChar value := by
  obtain ⟨low, high⟩ := Char.isDigit_iff_toNat.mp digit
  change 48 ≤ character.toNat at low
  change character.toNat ≤ 57 at high
  have bound : character.toNat - 48 < 10 := by omega
  refine ⟨character.toNat - 48, bound, ?_⟩
  rw [← Char.toNat_inj, Nat.toNat_digitChar_of_lt_ten bound]
  omega

theorem stepBetween_digit {character : Char} (digit : character.isDigit = true)
    (notZero : character ≠ '0') :
    stepBetween character = ([], .number .whole (numeral false [digitValue character])) := by
  obtain ⟨value, bound, rfl⟩ := digit_eq digit
  have all : ∀ value < 10, Nat.digitChar value ≠ '0' → stepBetween (Nat.digitChar value) =
      ([], .number .whole (numeral false [digitValue (Nat.digitChar value)])) := by decide
  exact all value bound notZero

theorem leads_first_zero (negative : Bool) :
    Leads .between (Spelling.signText negative ++ ['0']) (.number .zero (numeral negative [0])) := by
  cases negative <;> rfl

theorem leads_first_digit (negative : Bool) {character : Char} (digit : character.isDigit = true)
    (notZero : character ≠ '0') :
    Leads .between (Spelling.signText negative ++ [character])
      (.number .whole (numeral negative [digitValue character])) := by
  have ascii := isAscii_of_isDigit digit
  cases negative with
  | false => exact Leads.between ascii (stepBetween_digit digit notZero)
  | true =>
    have sign : Leads .between ['-'] (.number .sign (numeral true [])) := rfl
    refine sign.append (Leads.number ascii ?_)
    simp [NumberPhase.next?, notZero, digit, numeral]

theorem leads_whole_part {spelling : Spelling} (wellFormed : spelling.WellFormed) :
    ∃ phase, IsBehindWhole phase ∧
      Leads .between (Spelling.signText spelling.negative ++ spelling.whole)
        (.number phase (numeral spelling.negative (spelling.whole.map digitValue).reverse)) := by
  have digits := wellFormed.wholeDigits
  rcases wellFormed.whole with zero | ⟨first, rest, parts, notZero⟩
  · rw [zero]
    exact ⟨.zero, .inl rfl, leads_first_zero spelling.negative⟩
  · rw [parts] at digits ⊢
    obtain ⟨digit, others⟩ := List.forall_mem_cons.mp digits
    have leads := (leads_first_digit spelling.negative digit notZero).append (leads_whole others _)
    refine ⟨.whole, .inr rfl, ?_⟩
    simpa [numeral] using leads

theorem leads_fraction_part {phase : NumberPhase} (behind : IsBehindWhole phase)
    {fraction : List Char} (digits : AreDigits fraction) (negative : Bool) (whole : List Nat) :
    ∃ next, (IsBehindWhole next ∨ next = .fraction) ∧
      Leads (.number phase (numeral negative whole)) (Spelling.fractionText fraction)
        (.number next
          { numeral negative whole with fraction := (fraction.map digitValue).reverse }) := by
  cases fraction with
  | nil => exact ⟨phase, .inl behind, Leads.nil _⟩
  | cons first rest =>
    obtain ⟨digit, others⟩ := List.forall_mem_cons.mp digits
    have point : phase.next? '.' (numeral negative whole) =
        some (.point, numeral negative whole) := by
      rcases behind with rfl | rfl <;> rfl
    have entered : NumberPhase.point.next? first (numeral negative whole) =
        some (.fraction, { numeral negative whole with fraction := [digitValue first] }) := by
      simp only [NumberPhase.next?, digit, if_true]
    have ascii : IsAscii '.' := by decide
    have leads := (Leads.number ascii point).cons
      ((Leads.number (isAscii_of_isDigit digit) entered).cons (leads_fraction others _))
    refine ⟨.fraction, .inr rfl, ?_⟩
    simpa [Spelling.fractionText] using leads

/-- The digits of an exponent are read as its size. -/
theorem leads_exponent_digits (shrinks : Bool) {digits : List Char} (present : digits ≠ [])
    (areDigits : AreDigits digits) (read : Numeral) :
    Leads (.number (.markSign shrinks) read) digits
      (.number (.exponent shrinks)
        { read with exponent := some (exponentValue shrinks (Nat.ofDigitChars 10 digits 0)) }) := by
  obtain ⟨first, rest, rfl⟩ := List.exists_cons_of_ne_nil present
  obtain ⟨digit, others⟩ := List.forall_mem_cons.mp areDigits
  have entered : (NumberPhase.markSign shrinks).next? first read =
      some (.exponent shrinks,
        { read with exponent := some (exponentValue shrinks (digitValue first)) }) := by
    cases shrinks <;> simp [NumberPhase.next?, NumberPhase.next?.digit?, digit, exponentValue]
  have leads := (Leads.number (isAscii_of_isDigit digit) entered).cons
    (leads_exponent others shrinks read (digitValue first))
  rwa [Nat.ofDigitChars_cons, Nat.mul_zero, Nat.zero_add]

/-- An exponent may follow the whole part and the fraction. -/
theorem leads_exponent_part {phase : NumberPhase}
    (behind : IsBehindWhole phase ∨ phase = .fraction) (exponent : Option (Bool × Nat))
    {read : Numeral} (unread : read.exponent = none) :
    ∃ next, next.isFinal = true ∧
      Leads (.number phase read) (Spelling.exponentText exponent)
        (.number next
          { read with exponent := exponent.map fun part => exponentValue part.1 part.2 }) := by
  cases exponent with
  | none =>
    have same : { read with exponent := none } = read := by rw [← unread]
    refine ⟨phase, ?_, ?_⟩
    · rcases behind with (rfl | rfl) | rfl <;> rfl
    · rw [Option.map_none, same]
      exact Leads.nil _
  | some part =>
    obtain ⟨shrinks, size⟩ := part
    have mark : phase.next? 'e' read = some (.mark, read) := by
      rcases behind with (rfl | rfl) | rfl <;> rfl
    have sign : NumberPhase.mark.next? (if shrinks then '-' else '+') read =
        some (.markSign shrinks, read) := by
      cases shrinks <;> rfl
    have signAscii : IsAscii (if shrinks then '-' else '+') := by cases shrinks <;> decide
    have markAscii : IsAscii 'e' := by decide
    have digits := leads_exponent_digits shrinks
      (show Decimal.digits size ≠ [] from Nat.toDigits_ne_nil) (areDigits_digits size) read
    rw [show Nat.ofDigitChars 10 (Decimal.digits size) 0 = size from Nat.ofDigitChars_ten_toDigits]
      at digits
    exact ⟨.exponent shrinks, rfl,
      (Leads.number markAscii mark).cons ((Leads.number signAscii sign).cons digits)⟩

/-- The spelling of a number is read to its end. -/
theorem leads_spelling {spelling : Spelling} (wellFormed : spelling.WellFormed) :
    ∃ phase read, phase.isFinal = true ∧ inOrder read = spelling.numeral ∧
      Leads .between spelling.text (.number phase read) := by
  obtain ⟨phase, behind, whole⟩ := leads_whole_part wellFormed
  obtain ⟨next, behindNext, fraction⟩ :=
    leads_fraction_part behind wellFormed.fractionDigits spelling.negative
      (spelling.whole.map digitValue).reverse
  have unread : ∀ whole fraction,
      { numeral spelling.negative whole with fraction := fraction }.exponent = none :=
    fun _ _ => rfl
  obtain ⟨last, final, exponent⟩ :=
    leads_exponent_part behindNext spelling.exponent (unread _ _)
  refine ⟨last, _, final, ?_, (whole.append fraction).append exponent⟩
  simp [inOrder, numeral, Spelling.numeral]

/-- The letter in front of an exponent. -/
def IsMark (character : Char) : Prop :=
  character = 'e' ∨ character = 'E'

/-- The characters that would go on with a number. -/
def GoesOn (character : Char) : Prop :=
  character.isDigit = true ∨ character = '.' ∨ IsMark character

/-- A number is complete before a character that does not go on with it. -/
theorem stepNumber_apart {phase : NumberPhase} (final : phase.isFinal = true) (read : Numeral)
    {character : Char} (apart : ¬ GoesOn character) :
    stepNumber character phase read =
      (.number (inOrder read) :: (stepBetween character).1, (stepBetween character).2) := by
  simp only [GoesOn, IsMark, not_or] at apart
  obtain ⟨notDigit, notPoint, notMark, notCapital⟩ := apart
  have noMark : NumberPhase.afterWhole? character = none := by
    simp [NumberPhase.afterWhole?, notPoint, notMark, notCapital]
  cases phase with
  | zero | whole =>
    simp [stepNumber, NumberPhase.next?, noMark, NumberPhase.isFinal, NumberPhase.forbids, notDigit]
  | fraction =>
    simp [stepNumber, NumberPhase.next?, notMark, notCapital, NumberPhase.isFinal,
      NumberPhase.forbids, notDigit]
  | exponent shrinks =>
    simp [stepNumber, NumberPhase.next?, NumberPhase.next?.digit?, NumberPhase.isFinal,
      NumberPhase.forbids, notDigit]
  | sign | point | mark | markSign => cases final

/-- What may follow a value inside an object. -/
def IsDelimiter (character : Char) : Prop :=
  character = ',' ∨ character = '\x7d'

/-- Before a delimiter, the text is read as one token. -/
def IsText (text : List Char) (token : Token) : Prop :=
  ∀ character, IsDelimiter character → ∀ rest,
    advance .between (bytesOf (text ++ character :: rest)) =
      (token :: (advance .between (bytesOf (character :: rest))).1,
        (advance .between (bytesOf (character :: rest))).2)

theorem IsText.of_advance {text : List Char} {token : Token}
    (complete : advance .between (bytesOf text) = ([token], .between)) : IsText text token := by
  intro character _ rest
  rw [bytesOf_append, advance_append, complete]
  rfl

theorem not_goesOn_of_delimiter {character : Char} (delimiter : IsDelimiter character) :
    ¬ GoesOn character := by
  rcases delimiter with rfl | rfl <;> simp [GoesOn, IsMark, Char.isDigit]

/-- A number is complete only where a delimiter follows. -/
theorem isText_spelling {spelling : Spelling} (wellFormed : spelling.WellFormed) :
    IsText spelling.text (.number spelling.numeral) := by
  intro character delimiter rest
  obtain ⟨phase, read, final, equal, leads⟩ := leads_spelling wellFormed
  have ascii : IsAscii character := by rcases delimiter with rfl | rfl <;> decide
  have bytes : bytesOf (character :: rest) = UInt8.ofNat character.toNat :: bytesOf rest := by
    simp [bytesOf, utf8EncodeChar_of_ascii ascii]
  rw [Leads] at leads
  rw [bytesOf_append, advance_append, leads, bytes]
  have completed := stepNumber_apart final read (not_goesOn_of_delimiter delimiter)
  simp [advance, step, ofUInt8_ofNat_toNat ascii, completed, equal]

end LoadReport.Json.Scanner

namespace LoadReport.Json.Numeral

open Scanner (Spelling digitValue)

/-! ## Values -/

theorem le_ofDigitChars (text : List Char) (start : Nat) :
    start ≤ Nat.ofDigitChars 10 text start := by
  rw [Nat.ofDigitChars_eq_ofDigitChars_zero]
  exact Nat.le_trans (Nat.le_mul_of_pos_left start (Nat.pow_pos (by decide))) (Nat.le_add_right _ _)

theorem gatherWhole_digits {text : List Char} {start : Nat}
    (fits : Nat.ofDigitChars 10 text start < significandLimit) :
    gatherWhole start (text.map digitValue) = (Nat.ofDigitChars 10 text start, 0) := by
  induction text generalizing start with
  | nil => rfl
  | cons character rest inductionHypothesis =>
    rw [Nat.ofDigitChars_cons] at fits ⊢
    have next : start * 10 + digitValue character = 10 * start + (character.toNat - '0'.toNat) := by
      rw [digitValue, Nat.mul_comm]
    have bound := Nat.lt_of_le_of_lt (le_ofDigitChars _ _) fits
    rw [List.map_cons, gatherWhole, next, if_pos bound]
    exact inductionHypothesis fits

theorem gatherFraction_digits {text : List Char} {start : Nat}
    (fits : Nat.ofDigitChars 10 text start < significandLimit) :
    gatherFraction start (text.map digitValue) = (Nat.ofDigitChars 10 text start, text.length) := by
  induction text generalizing start with
  | nil => rfl
  | cons character rest inductionHypothesis =>
    rw [Nat.ofDigitChars_cons] at fits ⊢
    have next : start * 10 + digitValue character = 10 * start + (character.toNat - '0'.toNat) := by
      rw [digitValue, Nat.mul_comm]
    have bound := Nat.lt_of_le_of_lt (le_ofDigitChars _ _) fits
    rw [List.map_cons, gatherFraction, next, if_pos bound, inductionHypothesis fits]
    rfl

/-- All digits that fit are kept. -/
theorem scientific_spelling {spelling : Spelling}
    (fits : Nat.ofDigitChars 10 (spelling.whole ++ spelling.fraction) 0 < significandLimit) :
    spelling.numeral.scientific =
      (Nat.ofDigitChars 10 (spelling.whole ++ spelling.fraction) 0,
        -spelling.fraction.length +
          (spelling.exponent.map fun part => Scanner.exponentValue part.1 part.2).getD 0) := by
  rw [Nat.ofDigitChars_append] at fits ⊢
  have wholeFits := Nat.lt_of_le_of_lt (le_ofDigitChars _ _) fits
  simp only [scientific, Spelling.numeral, gatherWhole_digits wholeFits, gatherFraction_digits fits]
  simp

end LoadReport.Json.Numeral
