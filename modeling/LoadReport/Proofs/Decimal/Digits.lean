import Mathlib.Tactic.Ring
import LoadReport.Proofs.Json.Spelling

/-!
# What runs of digits stand for

The digits of a number have its value and do not begin with a superfluous zero; a run of digits of a
required length has the value of the last digits of the number.
-/

namespace LoadReport.Decimal

open Json.Scanner (AreDigits Spelling areDigits_digits)

theorem digits_head {value : Nat} (positive : 0 < value) :
    ∃ first rest, digits value = first :: rest ∧ first ≠ '0' := by
  induction value using Nat.strongRecOn with
  | ind value inductionHypothesis =>
    rw [digits, Nat.toDigits_eq_if (by decide)]
    split
    next small =>
      exact ⟨_, [], rfl, fun zero => by simp at zero; omega⟩
    next large =>
      obtain ⟨first, rest, parts, notZero⟩ :=
        inductionHypothesis (value / 10) (by omega) (by omega)
      rw [digits] at parts
      rw [parts]
      exact ⟨first, _, rfl, notZero⟩

theorem value_digits (value : Nat) : Nat.ofDigitChars 10 (digits value) 0 = value :=
  Nat.ofDigitChars_ten_toDigits

/-- The digits of a number may stand in front of a point and any other digits. -/
theorem wellFormed_digits (negative : Bool) (value : Nat) {fraction : List Char}
    (fractionDigits : AreDigits fraction) :
    Spelling.WellFormed ⟨negative, digits value, fraction, none⟩ where
  whole := by
    rcases Nat.eq_zero_or_pos value with rfl | positive
    · exact .inl rfl
    · exact .inr (digits_head positive)
  wholeDigits := areDigits_digits value
  fractionDigits := fractionDigits

theorem natural_eq_toString (value : Nat) : natural value = toString value :=
  Nat.repr_eq_ofList_toDigits.symm

theorem toString_injective {first second : Nat} (equal : toString first = toString second) :
    first = second := by
  have sameDigits : digits first = digits second := by
    simpa only [← natural_eq_toString, natural, String.ofList_inj] using equal
  rw [← value_digits first, sameDigits, value_digits]

/-! ## The last digits -/

theorem areDigits_lastDigits (count value : Nat) {rest : List Char} (areDigits : AreDigits rest) :
    AreDigits (lastDigits count value rest) := by
  induction count generalizing value rest with
  | zero => exact areDigits
  | succ count inductionHypothesis =>
    have last : (Nat.digitChar (value % 10)).isDigit = true := by
      rw [Nat.isDigit_digitChar, decide_eq_true_eq]
      exact Nat.mod_lt value (by decide)
    exact inductionHypothesis _ (List.forall_mem_cons.mpr ⟨last, areDigits⟩)

/-- Behind other digits, the last digits of a number are read as what it leaves of the power of ten. -/
theorem ofDigitChars_lastDigits (count value start : Nat) (rest : List Char) :
    Nat.ofDigitChars 10 (lastDigits count value rest) start =
      Nat.ofDigitChars 10 rest (start * tenTo count + value % tenTo count) := by
  -- The last digit is written first, so each step puts one more digit in front of the rest.
  induction count generalizing value rest with
  | zero => simp [lastDigits, tenTo, Nat.mod_one]
  | succ count inductionHypothesis =>
    have digit : (Nat.digitChar (value % 10)).toNat - '0'.toNat = value % 10 :=
      Nat.toNat_digitChar_sub_48_of_lt_ten (Nat.mod_lt value (by decide))
    have split : value % tenTo (count + 1) = value % 10 + 10 * (value / 10 % tenTo count) := by
      rw [tenTo_succ, Nat.mod_mul]
    have joined : 10 * (start * tenTo count + value / 10 % tenTo count) + value % 10 =
        start * tenTo (count + 1) + value % tenTo (count + 1) := by
      rw [split, tenTo_succ]
      ring
    rw [lastDigits, inductionHypothesis, Nat.ofDigitChars_cons, digit, joined]

/-- The digits in front of the point and the places behind it have the value of the number. -/
theorem value_digits_append_lastDigits (places value : Nat) :
    Nat.ofDigitChars 10 (digits (value / tenTo places) ++ lastDigits places value []) 0 = value := by
  rw [Nat.ofDigitChars_append, value_digits, ofDigitChars_lastDigits, Nat.ofDigitChars_nil,
    Nat.div_add_mod']

end LoadReport.Decimal
