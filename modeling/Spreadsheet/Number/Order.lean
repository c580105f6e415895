/-!
# Order of numbers

`floatOrder` compares two doubles and `floatIntOrder` a double with an integer, exactly. An
undefined number is not comparable with anything.
-/

namespace Spreadsheet

/-- How two doubles compare; `none` if one of them is undefined. -/
def floatOrder (x y : Float) : Option Ordering :=
  if x < y then some .lt
  else if x == y then some .eq
  else if y < x then some .gt
  else none

/-- How a double and an integer compare. -/
def floatIntOrder (x : Float) (n : Int) : Option Ordering :=
  match x.toModel.unpack with
  | .notANumber => none
  | .infinity .positive => some .gt
  | .infinity .negative => some .lt
  | .zero _ => some (compare 0 n)
  | .finite sign m e _ =>
    if 0 ≤ e then some (compare (sign.apply m * Nat.pow 2 e.toNat) n)
    else some (compare (sign.apply m) (n * Nat.pow 2 (-e).toNat))

/-- The double nearest to an integer, infinite when it is too large. -/
def nearestToInt (n : Int) : Float :=
  if n < 0 then -(Float.ofScientific n.natAbs false 0) else Float.ofScientific n.natAbs false 0

end Spreadsheet
