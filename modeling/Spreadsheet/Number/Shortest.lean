import Spreadsheet.Number.Display

/-!
# Shortest decimals

`shortestDecimal` is the decimal of the fewest digits that reads back as the same number, the
nearest of those. `exactText` writes a number with them: unlike the text of a cell it tells any
two numbers apart, and it always shows that the number is not an integer of the language.
-/

namespace Spreadsheet

/-- The double that `d * 10 ^ e` is nearest to. -/
def nearestDouble (d : Nat) (e : Int) : Float :=
  Float.ofScientific d (e < 0) e.natAbs

/-- The neighbours of a positive fraction among the decimals `d * 10 ^ e` with the given count of
digits, the nearest one first. -/
def decimalNeighbours (digits num den : Nat) : List (Nat × Int) :=
  let (d, x) := Decimal.significant digits num den
  let e := x - (digits - 1 : Nat)
  [(d, e), (d + 1, e), (d - 1, e)]

/-- The decimal `d * 10 ^ e` of the fewest digits that reads back as a positive double. Seventeen
digits always do. -/
def shortestDecimal (x : Float) (num den : Nat) : Nat × Int :=
  let readsBack (p : Nat × Int) : Bool := nearestDouble p.1 p.2 == x
  let found := (List.range 17).findSome? fun k =>
    (decimalNeighbours (k + 1) num den).find? readsBack
  found.getD (0, 0)

/-- Shortest digits are written positionally from `0.0001` up to `10 ^ 16`. -/
def exactFormat : DisplayFormat := ⟨16, -4, 2⟩

/-- A point and a zero after a text that has neither a point nor an exponent. -/
def withDecimalMark (cs : List Char) : List Char :=
  if cs.any fun c => c = '.' || c = 'e' then cs else cs ++ ['.', '0']

/-- The text of a number that reads back as the same number. -/
def exactText (x : Float) : Text :=
  match x.toModel.unpack with
  | .notANumber => "nan"
  | .infinity .positive => "inf"
  | .infinity .negative => "-inf"
  | .zero .positive => "0.0"
  | .zero .negative => "-0.0"
  | .finite sign m e _ =>
    let (num, den) := dyadicFraction m e
    let (d, e) := shortestDecimal x.abs num den
    let digits := Nat.toDigits 10 d
    let padded := digits ++ List.replicate (exactFormat.digits - digits.length) '0'
    let text := withDecimalMark (exactFormat.digitsText padded (e + (digits.length - 1 : Nat)))
    match sign with
    | .negative => .ofChars ('-' :: text)
    | .positive => .ofChars text

end Spreadsheet
