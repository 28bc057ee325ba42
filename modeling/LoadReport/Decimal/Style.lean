import LoadReport.Decimal.Digits
import LoadReport.Decimal.Shortest

/-! # Styles of shortest decimals

How the digits of a shortest decimal are set: in which range of sizes the number is written out in
full, and what a whole number and an exponent look like. -/

namespace LoadReport.Decimal

/-- The decisions of one way to write numbers. -/
structure Style where
  tie : Tie
  /-- Whether a number is written out in full, given the power of ten of its leading digit. -/
  positional : Int → Bool
  /-- What ends a whole number that is written out in full. -/
  wholeEnding : List Char
  /-- What stands in front of an exponent that is not negative. -/
  exponentSign : List Char

namespace Style

/-- Digits written out in full, with zeros up to the point or behind it where needed. -/
def writeOut (style : Style) (digits : List Char) (exponent : Int) : List Char :=
  match exponent with
  | .ofNat zeros => digits ++ List.replicate zeros '0' ++ style.wholeEnding
  | .negSucc _ =>
    let places := exponent.natAbs
    if places < digits.length then
      digits.take (digits.length - places) ++ '.' :: digits.drop (digits.length - places)
    else '0' :: '.' :: (List.replicate (places - digits.length) '0' ++ digits)

/-- One digit, the others behind a point, and the power of ten of the first. -/
def writeScientific (style : Style) (digits : List Char) (leading : Int) : List Char :=
  let sign := if leading < 0 then ['-'] else style.exponentSign
  digits.take 1 ++ (if digits.length = 1 then [] else '.' :: digits.drop 1) ++
    'e' :: sign ++ Decimal.digits leading.natAbs

def magnitude (style : Style) (code : Nat) : List Char :=
  if code = 0 then '0' :: style.wholeEnding
  else
    let decimal := shortest style.tie code
    let digits := Decimal.digits decimal.coefficient
    let leading := decimal.exponent + digits.length - 1
    if style.positional leading then style.writeOut digits decimal.exponent
    else style.writeScientific digits leading

/-- The text of a number; a zero keeps its sign. -/
def render (style : Style) : Binary64 → String
  | .finite negative code => signed negative (String.ofList (style.magnitude code.val))
  | .infinite negative => signed negative "inf"
  | .nan => "NaN"

/-- Numbers inside messages are written out in full, whatever their size, and whole ones have no
point. -/
def plain : Style where
  tie := .upper
  positional := fun _ => true
  wholeEnding := []
  exponentSign := []

/-- Lengths keep a decimal place and are written out in full from `0.0001` up to `10 ^ 16`. -/
def length : Style where
  tie := .upper
  positional := fun leading => -4 ≤ leading && leading < 16
  wholeEnding := ['.', '0']
  exponentSign := []

end Style

end LoadReport.Decimal
