import LoadReport.Proofs.Decimal.Digits
import LoadReport.Proofs.Json.Scaling
import LoadReport.Results.Writer

/-!
# Numbers are read close to what was written

A number is written with the digits of its shortest decimal, in one of several layouts. Each of them is
a spelling with the value of the decimal. So reading scales that decimal, which stands for the number.
-/

namespace LoadReport.Results

open Decimal (digits_head value_digits wellFormed_digits)
open Json (Numeral)
open Json.Scanner (Spelling areDigits_digits areDigits_nil areDigits_zeros exponentValue)

/-- The significand and the power of ten that the digits of a magnitude make up. A whole number that is
written out in full has zeros up to the point and one behind it. -/
def written (code : Nat) : Nat × Int :=
  if code = 0 then (0, -1)
  else
    let decimal := Decimal.shortest .even code
    let leading := decimal.exponent + (Decimal.digits decimal.coefficient).length - 1
    if 0 ≤ decimal.exponent ∧ leading < 16 then
      (decimal.coefficient * tenTo (decimal.exponent.toNat + 1), -1)
    else (decimal.coefficient, decimal.exponent)

/-! ## Layouts -/

/-- With a sign in front, the text is a number with these digits. -/
def Spells (text : List Char) (significand : Nat) (power : Int) : Prop :=
  ∀ negative, ∃ spelling : Spelling, spelling.WellFormed ∧ spelling.negative = negative ∧
    spelling.text = Spelling.signText negative ++ text ∧
    Nat.ofDigitChars 10 (spelling.whole ++ spelling.fraction) 0 = significand ∧
    -spelling.fraction.length +
      (spelling.exponent.map fun part => exponentValue part.1 part.2).getD 0 = power

theorem spells_zero : Spells ['0', '.', '0'] 0 (-1) := by
  intro negative
  refine ⟨⟨negative, ['0'], ['0'], none⟩, ⟨.inl rfl, ?_, ?_⟩, rfl, ?_, rfl, rfl⟩
  · exact areDigits_zeros 1
  · exact areDigits_zeros 1
  · cases negative <;> rfl

variable {coefficient : Nat}

theorem spells_whole (positive : 0 < coefficient) (zeros : Nat) :
    Spells (Decimal.digits coefficient ++ List.replicate zeros '0' ++ ['.', '0'])
      (coefficient * tenTo (zeros + 1)) (-1) := by
  intro negative
  obtain ⟨first, rest, parts, notZero⟩ := digits_head positive
  refine ⟨⟨negative, Decimal.digits coefficient ++ List.replicate zeros '0', ['0'], none⟩,
    ⟨.inr ⟨first, rest ++ List.replicate zeros '0', ?_, notZero⟩, ?_, areDigits_zeros 1⟩, rfl, ?_,
    ?_, rfl⟩
  · rw [parts]
    rfl
  · exact (areDigits_digits coefficient).append (areDigits_zeros zeros)
  · simp [Spelling.text, Spelling.fractionText, Spelling.exponentText]
  · rw [Nat.ofDigitChars_append, Nat.ofDigitChars_append, Decimal.digits,
      Nat.ofDigitChars_ten_toDigits, Nat.ofDigitChars_replicate_zero, tenTo_succ, tenTo, Nat.pow_eq]
    simp only [Nat.ofDigitChars_cons, Nat.ofDigitChars_nil, Nat.sub_self]
    ring

theorem spells_split (positive : 0 < coefficient) {places : Nat} (notZero : 0 < places)
    (split : places < (Decimal.digits coefficient).length) :
    Spells
      ((Decimal.digits coefficient).take ((Decimal.digits coefficient).length - places) ++
        '.' :: (Decimal.digits coefficient).drop ((Decimal.digits coefficient).length - places))
      coefficient (-places) := by
  intro negative
  have digits := areDigits_digits coefficient
  have value := value_digits coefficient
  obtain ⟨first, rest, parts, leading⟩ := digits_head positive
  rw [parts] at digits value split ⊢
  obtain ⟨before, equal⟩ : ∃ before, (first :: rest).length - places = before + 1 :=
    ⟨(first :: rest).length - places - 1, by omega⟩
  have long : ((first :: rest).drop (before + 1)).length = places := by
    rw [List.length_drop]
    omega
  have notEmpty : (first :: rest).drop (before + 1) ≠ [] := List.ne_nil_of_length_pos (by omega)
  rw [equal]
  refine ⟨⟨negative, (first :: rest).take (before + 1), (first :: rest).drop (before + 1), none⟩,
    ⟨.inr ⟨first, rest.take before, List.take_succ_cons, leading⟩, ?_, ?_⟩, rfl, ?_, ?_, ?_⟩
  · exact fun character member => digits character (List.mem_of_mem_take member)
  · exact fun character member => digits character (List.mem_of_mem_drop member)
  · rw [Spelling.text, Spelling.fractionText, if_neg notEmpty]
    simp [Spelling.exponentText]
  · rw [List.take_append_drop, value]
  · rw [long]
    exact Int.add_zero _

theorem spells_behind (positive : 0 < coefficient) {places : Nat}
    (split : (Decimal.digits coefficient).length ≤ places) :
    Spells
      ('0' :: '.' :: (List.replicate (places - (Decimal.digits coefficient).length) '0' ++
        Decimal.digits coefficient))
      coefficient (-places) := by
  intro negative
  obtain ⟨first, rest, parts, -⟩ := digits_head positive
  have long : (List.replicate (places - (Decimal.digits coefficient).length) '0' ++
      Decimal.digits coefficient).length = places := by
    rw [List.length_append, List.length_replicate]
    omega
  have notEmpty : List.replicate (places - (Decimal.digits coefficient).length) '0' ++
      Decimal.digits coefficient ≠ [] := by
    rw [parts]
    exact List.append_ne_nil_of_right_ne_nil _ (List.cons_ne_nil _ _)
  have digits := (areDigits_zeros (places - (Decimal.digits coefficient).length)).append
    (areDigits_digits coefficient)
  have value : Nat.ofDigitChars 10 ('0' :: (List.replicate
      (places - (Decimal.digits coefficient).length) '0' ++ Decimal.digits coefficient)) 0 =
        coefficient := by
    rw [Nat.ofDigitChars_cons, Nat.ofDigitChars_append, Nat.sub_self,
      Nat.ofDigitChars_replicate_zero, Nat.mul_zero, value_digits]
  generalize List.replicate _ '0' ++ Decimal.digits coefficient = fraction at *
  refine ⟨⟨negative, ['0'], fraction, none⟩, ⟨.inl rfl, areDigits_zeros 1, digits⟩, rfl, ?_, value,
    ?_⟩
  · rw [Spelling.text, Spelling.fractionText, if_neg notEmpty]
    simp [Spelling.exponentText]
  · rw [long]
    exact Int.add_zero _

theorem spells_scientific (positive : 0 < coefficient) (power : Int) :
    Spells
      (numberStyle.writeScientific (Decimal.digits coefficient)
        (power + (Decimal.digits coefficient).length - 1))
      coefficient power := by
  intro negative
  have digits := areDigits_digits coefficient
  have value := value_digits coefficient
  obtain ⟨first, rest, parts, leading⟩ := digits_head positive
  rw [parts] at digits value ⊢
  obtain ⟨digit, others⟩ := List.forall_mem_cons.mp digits
  have above : power + (first :: rest).length - 1 = power + rest.length := by
    rw [List.length_cons]
    omega
  rw [above]
  generalize size : power + rest.length = exponent
  refine ⟨⟨negative, [first], rest, some (decide (exponent < 0), exponent.natAbs)⟩,
    ⟨.inr ⟨first, [], rfl, leading⟩, List.forall_mem_singleton.mpr digit, others⟩, rfl, ?_, value, ?_⟩
  · have alone : (first :: rest).length = 1 ↔ rest = [] := by simp
    simp only [Spelling.text, Spelling.fractionText, Spelling.exponentText, Decimal.Style.writeScientific,
      alone, numberStyle]
    by_cases below : exponent < 0 <;> simp [below]
  · have signed : exponentValue (decide (exponent < 0)) exponent.natAbs = exponent := by
      by_cases below : exponent < 0
      · rw [exponentValue, if_pos (decide_eq_true below)]
        omega
      · rw [exponentValue, if_neg (by simpa using below)]
        omega
    rw [Option.map_some, Option.getD_some, signed]
    change -(rest.length : Int) + exponent = power
    omega

/-- Every magnitude is written as a number with its digits. -/
theorem spells_magnitude {code : Nat} (inRange : code < Binary64.codeLimit) :
    Spells (numberStyle.magnitude code) (written code).1 (written code).2 := by
  cases code with
  | zero => exact spells_zero
  | succ previous =>
    have positive := (Decimal.shortest_standsFor .even previous inRange).positive
    have notZero : previous + 1 ≠ 0 := Nat.succ_ne_zero previous
    have style : numberStyle.tie = .even := rfl
    rw [written, if_neg notZero, Decimal.Style.magnitude, if_neg notZero, style]
    generalize Decimal.shortest .even (previous + 1) = decimal at positive ⊢
    obtain ⟨coefficient, exponent⟩ := decimal
    dsimp only at positive ⊢
    have long : 0 < (Decimal.digits coefficient).length := Nat.length_toDigits_pos
    by_cases positional : numberStyle.positional
      (exponent + (Decimal.digits coefficient).length - 1) = true
    · have range := positional
      simp only [numberStyle, Bool.and_eq_true, decide_eq_true_eq] at range
      rw [if_pos positional]
      rcases exponent with zeros | places
      · rw [if_pos ⟨Int.natCast_nonneg zeros, range.2⟩]
        exact spells_whole positive zeros
      · rw [if_neg fun whole => absurd whole.1 (Int.not_le.mpr (Int.negSucc_lt_zero places))]
        simp only [Decimal.Style.writeOut]
        split
        next split => exact spells_split positive (Nat.succ_pos places) split
        next split => exact spells_behind positive (Nat.not_lt.mp split)
    · have range := positional
      simp only [numberStyle, Bool.and_eq_true, decide_eq_true_eq] at range
      rw [if_neg positional, if_neg fun whole => range ⟨by omega, whole.2⟩]
      exact spells_scientific positive exponent

/-! ## Values -/

theorem coefficient_lt (coefficient : Nat) :
    coefficient < tenTo (Decimal.digits coefficient).length :=
  (Nat.length_toDigits_le_iff (by decide) Nat.length_toDigits_pos).mp (Nat.le_refl _)

/-- The zeros behind a whole number do not change what it stands for, and there are few of them. -/
theorem written_standsFor {previous : Nat} (inRange : previous + 1 < Binary64.codeLimit) :
    Decimal.StandsFor previous (written (previous + 1)).1 (written (previous + 1)).2 := by
  have stands := Decimal.shortest_standsFor .even previous inRange
  rw [written, if_neg (Nat.succ_ne_zero previous)]
  generalize Decimal.shortest .even (previous + 1) = decimal at stands ⊢
  obtain ⟨coefficient, exponent⟩ := decimal
  dsimp only at stands ⊢
  split
  next whole =>
    obtain ⟨nonnegative, short⟩ := whole
    obtain ⟨zeros, rfl⟩ := Int.eq_ofNat_of_zero_le nonnegative
    rw [Int.toNat_natCast]
    have same : Decimal.inUnits (coefficient * tenTo (zeros + 1)) (-1) =
        Decimal.inUnits coefficient zeros := by
      rw [Decimal.inUnits, Decimal.inUnits, Nat.cast_mul, Decimal.cast_tenTo, zpow_neg_one,
        Nat.cast_succ, zpow_add_one₀ (by norm_num)]
      ring
    refine ⟨same ▸ stands.between, Nat.mul_pos stands.positive (tenTo_pos _), ?_,
      show (-324 : Int) ≤ -1 by decide, show (-1 : Int) ≤ 308 by decide⟩
    have digits := coefficient_lt coefficient
    have size : coefficient * tenTo (zeros + 1) ≤ tenTo 17 :=
      calc coefficient * tenTo (zeros + 1)
          ≤ tenTo (Decimal.digits coefficient).length * tenTo (zeros + 1) :=
            Nat.mul_le_mul_right _ digits.le
        _ = tenTo ((Decimal.digits coefficient).length + (zeros + 1)) := (tenTo_add _ _).symm
        _ ≤ tenTo 17 := tenTo_le (by omega)
    exact size.trans (by decide)
  next => exact stands

instance (significand : Nat) (power : Int) : Decidable (Numeral.IsShort significand power) :=
  inferInstanceAs (Decidable (_ ∧ _ ∧ _))

/-- The two greatest numbers are read as the greatest. -/
theorem scale?_written_greatest :
    ∀ below < 2, Numeral.scale? (written (Binary64.codeLimit - 1 - below)).1
          (written (Binary64.codeLimit - 1 - below)).2 =
        some (.finite false ⟨Binary64.codeLimit - 1, by decide⟩) ∧
      ¬Numeral.IsShort (written (Binary64.codeLimit - 1 - below)).1
        (written (Binary64.codeLimit - 1 - below)).2 := by
  decide +kernel

theorem scale?_written_zero : Numeral.scale? (written 0).1 (written 0).2 =
    some (.finite false ⟨0, by decide⟩) := by
  decide +kernel

/-- The digits of a number lead to a number close to it. -/
theorem scale?_written {code : Nat} (inRange : code < Binary64.codeLimit) :
    ∃ read : Fin Binary64.codeLimit,
      Numeral.scale? (written code).1 (written code).2 = some (.finite false read) ∧
        Binary64.CodesNear read code ∧
        (Numeral.IsShort (written code).1 (written code).2 → read.val = code) := by
  rcases Nat.lt_or_ge (code + 2) Binary64.codeLimit with below | greatest
  · cases code with
    | zero => exact ⟨_, scale?_written_zero, ⟨Nat.zero_le _, Nat.zero_le _⟩, fun _ => rfl⟩
    | succ previous => exact Numeral.scale?_standsFor (written_standsFor inRange) below
  · obtain ⟨distance, close, rfl⟩ :
        ∃ distance < 2, code = Binary64.codeLimit - 1 - distance :=
      ⟨Binary64.codeLimit - 1 - code, by omega, by omega⟩
    obtain ⟨read, notShort⟩ := scale?_written_greatest distance close
    refine ⟨_, read, ?_, fun short => absurd short notShort⟩
    constructor <;> dsimp only <;> omega

theorem written_lt_significandLimit {code : Nat} (inRange : code < Binary64.codeLimit) :
    (written code).1 < Numeral.significandLimit := by
  have bound : 27 * Binary64.binade < Numeral.significandLimit := by decide
  cases code with
  | zero => exact Nat.lt_of_le_of_lt (Nat.zero_le _) bound
  | succ previous => exact Nat.lt_of_le_of_lt (written_standsFor inRange).bound bound

/-- A number that has been written and read again: it has the same sign and the magnitude that its
digits scale to. That is at most two codes away, and where the digits are few it is the same. -/
inductive IsReading : Binary64 → Binary64 → Prop where
  | finite (negative : Bool) (code read : Fin Binary64.codeLimit)
      (scaled : Numeral.scale? (written code).1 (written code).2 = some (.finite false read))
      (near : Binary64.CodesNear read code)
      (exact : Numeral.IsShort (written code).1 (written code).2 → read = code) :
      IsReading (.finite negative code) (.finite negative read)

theorem toList_writeNumber (negative : Bool) (code : Fin Binary64.codeLimit) :
    (writeNumber (.finite negative code)).toList =
      Spelling.signText negative ++ numberStyle.magnitude code.val := by
  rw [writeNumber, Binary64.isFinite, if_pos rfl, Decimal.Style.render, Decimal.signed]
  cases negative <;> simp [Spelling.signText]

theorem exists_number_token {value : Binary64} (finite : value.isFinite = true) :
    ∃ numeral read, Json.Scanner.IsText (writeNumber value).toList (.number numeral) ∧
      numeral.toBinary64? = some read ∧ IsReading value read := by
  cases value with
  | infinite => cases finite
  | nan => cases finite
  | finite negative code =>
    obtain ⟨spelling, wellFormed, sign, text, significand, power⟩ :=
      spells_magnitude code.isLt negative
    obtain ⟨read, scaled, near, exact⟩ := scale?_written code.isLt
    have scientific := Numeral.scientific_spelling
      (significand ▸ written_lt_significandLimit code.isLt)
    rw [significand, power] at scientific
    refine ⟨spelling.numeral, .finite negative read, ?_, ?_,
      .finite negative code read scaled near fun short => Fin.ext (exact short)⟩
    · rw [toList_writeNumber, ← text]
      exact Json.Scanner.isText_spelling wellFormed
    · rw [Numeral.toBinary64?, scientific]
      dsimp only
      rw [scaled]
      simp only [Spelling.numeral, sign]
      cases negative <;> rfl

/-- A counter is read as it was written. -/
theorem exists_counter_token (value : UInt64) :
    ∃ numeral, Json.Scanner.IsText (writeCounter value).toList (.number numeral) ∧
      numeral.toCounter? = some value := by
  have wellFormed := wellFormed_digits false value.toNat areDigits_nil
  have text : (writeCounter value).toList =
      Spelling.text ⟨false, Decimal.digits value.toNat, [], none⟩ := by
    simp [writeCounter, Decimal.natural, Spelling.text, Spelling.signText, Spelling.fractionText,
      Spelling.exponentText]
  have fits : Nat.ofDigitChars 10 (Decimal.digits value.toNat) 0 < Numeral.significandLimit := by
    rw [value_digits]
    exact value.toNat_lt
  refine ⟨_, text ▸ Json.Scanner.isText_spelling wellFormed, ?_⟩
  have gathered := Numeral.gatherWhole_digits fits
  rw [value_digits] at gathered
  simp [Numeral.toCounter?, Spelling.numeral, gathered]

end LoadReport.Results
