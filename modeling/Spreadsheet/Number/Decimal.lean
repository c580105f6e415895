/-!
# Decimal rounding

`roundDivEven` rounds a quotient to the nearest integer, a half to the even neighbour.
`leadingExponent` is the power of ten of the first digit of a positive fraction, and
`significant` rounds a fraction to a given count of significant digits. Integers of more than
`maxDigits` digits are neither read nor written.
-/

namespace Spreadsheet.Decimal

/-- The quotient rounded to the nearest integer; a half goes to the even neighbour. -/
def roundDivEven (num den : Nat) : Nat :=
  let q := num / den
  let r := num % den
  if 2 * r < den || (2 * r == den && q % 2 == 0) then q else q + 1

/-- How many decimal digits a number is written with. -/
def length (n : Nat) : Nat :=
  (Nat.toDigits 10 n).length

/-- Integers of more digits are neither read nor written. -/
def maxDigits : Nat := 4300

/-- The integer `x` with `10 ^ x ≤ num / den < 10 ^ (x + 1)`, for a positive fraction. -/
def leadingExponent (num den : Nat) : Int :=
  if den ≤ num then (length (num / den) : Int) - 1
  else -(length ((den - 1) / num) : Int)

/-- A fraction rounded to `digits` significant digits: an integer of that many digits and the
power of ten of the first of them. -/
def significant (digits num den : Nat) : Nat × Int :=
  let x := leadingExponent num den
  let shift := (digits : Int) - 1 - x
  let d := roundDivEven (num * Nat.pow 10 shift.toNat) (den * Nat.pow 10 (-shift).toNat)
  if d = Nat.pow 10 digits then (Nat.pow 10 (digits - 1), x + 1) else (d, x)

end Spreadsheet.Decimal
