import Spreadsheet.Number.Decimal
import Spreadsheet.Text

/-!
# Displayed numbers

A whole number below `10 ^ 15` is shown as an integer. Any other number is shown with ten
significant digits, positional while its first digit lies between the fourth place after the
point and the tenth before it, and otherwise as a power of ten.
-/

namespace Spreadsheet

/-- How a number is shown when not as an integer. -/
structure DisplayFormat where
  /-- The count of significant digits. -/
  digits : Nat
  /-- The least exponent of the first digit that is written positionally. -/
  leastPositional : Int
  /-- The least count of digits in a written exponent. -/
  exponentDigits : Nat

namespace DisplayFormat

/-- Ten significant digits, positional down to `0.0001`, and exponents of two digits or more. -/
def cell : DisplayFormat := ⟨10, -4, 2⟩

/-- Digits with the zeros at their end removed. -/
def dropTrailingZeros (ds : List Char) : List Char :=
  (ds.reverse.dropWhile (· == '0')).reverse

/-- Digits before a point and digits after it; a point with nothing after it is not written. -/
def withPoint (whole fraction : List Char) : List Char :=
  match dropTrailingZeros fraction with
  | [] => whole
  | ds => whole ++ '.' :: ds

/-- The exponent mark, the sign and the digits of an exponent. -/
def exponentText (f : DisplayFormat) (x : Int) : List Char :=
  let ds := Nat.toDigits 10 x.natAbs
  'e' :: (if x < 0 then '-' else '+') :: List.replicate (f.exponentDigits - ds.length) '0' ++ ds

/-- Significant digits whose first one stands at the power of ten `x`. -/
def digitsText (f : DisplayFormat) (ds : List Char) (x : Int) : List Char :=
  if x < f.leastPositional || f.digits ≤ x then
    withPoint (ds.take 1) (ds.drop 1) ++ f.exponentText x
  else if x < 0 then
    withPoint ['0'] (List.replicate (-x - 1).toNat '0' ++ ds)
  else
    withPoint (ds.take (x.toNat + 1)) (ds.drop (x.toNat + 1))

/-- A positive fraction in the format. -/
def fractionText (f : DisplayFormat) (num den : Nat) : List Char :=
  let (d, x) := Decimal.significant f.digits num den
  f.digitsText (Nat.toDigits 10 d) x

end DisplayFormat

/-- Whole numbers from here on are no longer shown as integers. -/
def wholeDisplayLimit : Nat := Nat.pow 10 15

/-- The positive fraction `m * 2 ^ e` as a numerator and a denominator. -/
def dyadicFraction (m : Nat) (e : Int) : Nat × Nat :=
  if 0 ≤ e then (m * Nat.pow 2 e.toNat, 1) else (m, Nat.pow 2 (-e).toNat)

/-- The text of a positive fraction: an integer when it is whole and small enough. -/
def magnitudeText (num den : Nat) : List Char :=
  if num % den = 0 && num / den < wholeDisplayLimit then Nat.toDigits 10 (num / den)
  else DisplayFormat.cell.fractionText num den

/-- The text of a finite number; both zeros are `0`. A number that is not finite has none. -/
def numberText? (x : Float) : Option Text :=
  match x.toModel.unpack with
  | .notANumber | .infinity _ => none
  | .zero _ => some "0"
  | .finite sign m e _ =>
    let (num, den) := dyadicFraction m e
    let text := magnitudeText num den
    match sign with
    | .negative => some (.ofChars ('-' :: text))
    | .positive => some (.ofChars text)

end Spreadsheet
