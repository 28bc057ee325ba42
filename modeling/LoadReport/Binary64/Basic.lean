import LoadReport.Powers
import LoadReport.Rounding

/-! # Double-precision numbers

A finite number is a sign and the code of its magnitude. The codes `0, 1, 2, …` name the
representable magnitudes in increasing order, so the code is also the bit pattern without the sign
and comparing magnitudes is comparing codes. All magnitudes are multiples of the least positive
one, `2 ^ -1074`; `units` counts how many, which makes every operation exact arithmetic on natural
numbers followed by one rounding. -/

namespace LoadReport

/-- The number of codes from one power of two to the next: 52 bits follow the first. -/
def Binary64.binade : Nat := twoTo 52

/-- The first code that is too large for a finite number. -/
def Binary64.codeLimit : Nat := 2047 * Binary64.binade

/-- A double-precision number, with a single value that is not a number. -/
inductive Binary64 where
  | finite (negative : Bool) (code : Fin Binary64.codeLimit)
  | infinite (negative : Bool)
  | nan
deriving DecidableEq

namespace Binary64

/-- How many units of `2 ^ -1074` make up one. -/
def unitsPerOne : Nat := twoTo 1074

/-- The magnitude with the given code, in units. -/
def units (code : Nat) : Nat :=
  if code < binade then code
  else (binade + code % binade) * twoTo (code / binade - 1)

/-- The distance in units from the magnitude with the given code to the next larger one. -/
def spacing (code : Nat) : Nat :=
  twoTo (code / binade - 1)

/-- The code of the magnitude nearest to `numerator / denominator` units, a half going to the even
code. Codes from `codeLimit` on stand for magnitudes beyond the finite numbers. -/
def nearestCode (numerator denominator : Nat) : Nat :=
  let shift := Nat.log2 (numerator / denominator) - 52
  shift * binade + Rounding.nearestEven numerator (denominator * twoTo shift)

/-- The number with the given sign nearest to `numerator / denominator` units. -/
def ofUnits (negative : Bool) (numerator denominator : Nat) : Binary64 :=
  let code := nearestCode numerator denominator
  if inRange : code < codeLimit then finite negative ⟨code, inRange⟩ else infinite negative

/-- The number nearest to a natural number. -/
def ofNat (value : Nat) : Binary64 :=
  ofUnits false (value * unitsPerOne) 1

/-- The number nearest to `± mantissa * 10 ^ exponent`. -/
def ofDecimal (negative : Bool) (mantissa : Nat) (exponent : Int) : Binary64 :=
  match exponent with
  | .ofNat places => ofUnits negative (mantissa * tenTo places * unitsPerOne) 1
  | .negSucc places => ofUnits negative (mantissa * unitsPerOne) (tenTo (places + 1))

instance : NatCast Binary64 := ⟨ofNat⟩

instance (value : Nat) : OfNat Binary64 value := ⟨ofNat value⟩

instance : OfScientific Binary64 where
  ofScientific mantissa shrinks places :=
    ofDecimal false mantissa (if shrinks then -(places : Int) else places)

/-- Neither infinite nor the value that is not a number. -/
def isFinite : Binary64 → Bool
  | finite _ _ => true
  | infinite _ => false
  | nan => false

/-- Either of the two zeros. -/
def isZero : Binary64 → Bool
  | finite _ code => code.val = 0
  | infinite _ => false
  | nan => false

/-- The position of a number in the order of all numbers; both zeros stand at the same place. -/
def rank? : Binary64 → Option Int
  | finite negative code => some (if negative then -(code.val : Int) else code.val)
  | infinite negative => some (if negative then -(codeLimit : Int) else codeLimit)
  | nan => none

/-- The value that is not a number is neither below nor above any number. -/
def lt (left right : Binary64) : Bool :=
  match left.rank?, right.rank? with
  | some first, some second => decide (first < second)
  | _, _ => false

/-- The value that is not a number is not even at most itself. -/
def le (left right : Binary64) : Bool :=
  match left.rank?, right.rank? with
  | some first, some second => decide (first ≤ second)
  | _, _ => false

instance : LT Binary64 := ⟨fun left right => left.lt right = true⟩
instance : LE Binary64 := ⟨fun left right => left.le right = true⟩

instance (left right : Binary64) : Decidable (left < right) :=
  inferInstanceAs (Decidable (left.lt right = true))

instance (left right : Binary64) : Decidable (left ≤ right) :=
  inferInstanceAs (Decidable (left.le right = true))

/-- The place of the sign in the bit pattern. -/
def signBit (negative : Bool) : Nat :=
  if negative then twoTo 63 else 0

/-- The 64-bit pattern: the sign bit, then the code. -/
def toBits : Binary64 → Nat
  | finite negative code => signBit negative + code.val
  | infinite negative => signBit negative + codeLimit
  | nan => codeLimit + twoTo 51

end Binary64

end LoadReport
