import LoadReport.Powers

/-! # Decimal digits of natural numbers

Texts of whole numbers, and runs of digits of a required length for decimal places. -/

namespace LoadReport.Decimal

/-- The decimal digits of a natural number, the most significant first, without leading zeros. -/
def digits (value : Nat) : List Char :=
  Nat.toDigits 10 value

/-- The last `count` decimal digits of a natural number, with zeros in front where it has fewer,
followed by `rest`. -/
def lastDigits : (count value : Nat) → (rest : List Char) → List Char
  | 0, _, rest => rest
  | count + 1, value, rest => lastDigits count (value / 10) (Nat.digitChar (value % 10) :: rest)

/-- The same digits as `lastDigits`. Each of the first `halvings` levels splits the run in two, so
that long runs need few divisions of long numbers. -/
def lastDigitsHalving : (halvings count value : Nat) → (rest : List Char) → List Char
  | 0, count, value, rest => lastDigits count value rest
  | halvings + 1, count, value, rest =>
    let half := count / 2
    lastDigitsHalving halvings (count - half) (value / tenTo half)
      (lastDigitsHalving halvings half (value % tenTo half) rest)

/-- A text with a minus sign in front if it stands for something negative. -/
def signed (negative : Bool) (text : String) : String :=
  if negative then "-" ++ text else text

def natural (value : Nat) : String :=
  String.ofList (digits value)

/-- The text of an integer; zero has no sign. -/
def integer (value : Int) : String :=
  signed (decide (value < 0)) (natural value.natAbs)

/-- Only the last digits of the value matter. -/
theorem lastDigits_mod (count value : Nat) (rest : List Char) :
    lastDigits count (value % tenTo count) rest = lastDigits count value rest := by
  induction count generalizing value rest with
  | zero => rfl
  | succ count ih =>
    have lastDigit : value % tenTo (count + 1) % 10 = value % 10 := by
      rw [tenTo_succ, Nat.mod_mul_right_mod]
    have otherDigits : value % tenTo (count + 1) / 10 = value / 10 % tenTo count := by
      rw [tenTo_succ, Nat.mod_mul_right_div_self]
    simp only [lastDigits, lastDigit, otherDigits, ih]

/-- A run of digits falls into two runs. -/
theorem lastDigits_add (left right value : Nat) (rest : List Char) :
    lastDigits (left + right) value rest =
      lastDigits left (value / tenTo right) (lastDigits right value rest) := by
  induction right generalizing value rest with
  | zero => simp [lastDigits, tenTo]
  | succ right ih =>
    have shifted : value / 10 / tenTo right = value / tenTo (right + 1) := by
      rw [Nat.div_div_eq_div_mul, tenTo_succ]
    rw [← Nat.add_assoc]
    simp only [lastDigits, ih, shifted]

/-- Splitting changes nothing. -/
theorem lastDigitsHalving_eq (halvings count value : Nat) (rest : List Char) :
    lastDigitsHalving halvings count value rest = lastDigits count value rest := by
  induction halvings generalizing count value rest with
  | zero => rfl
  | succ halvings ih =>
    have parts : count - count / 2 + count / 2 = count := by omega
    simp only [lastDigitsHalving, ih, lastDigits_mod]
    rw [← lastDigits_add, parts]

/-- Exactly as many digits as asked for. -/
theorem length_lastDigits (count value : Nat) (rest : List Char) :
    (lastDigits count value rest).length = count + rest.length := by
  induction count generalizing value rest with
  | zero => simp [lastDigits]
  | succ count ih =>
    simp only [lastDigits, ih, List.length_cons]
    omega

end LoadReport.Decimal
