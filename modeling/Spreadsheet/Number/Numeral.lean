import Spreadsheet.Text.Blank
import Spreadsheet.Text.Cut
import Spreadsheet.Text.Digit

/-!
# Numerals

A numeral is digits with an optional point and an optional exponent. `Numeral.scan?` takes the
longest numeral from the front of a text, `Numeral.spelling` writes it back, and
`Numeral.value` is the nearest double. `readNumber` reads a text that is a signed numeral and
nothing else.
-/

namespace Spreadsheet

open Text

/-- The exponent of a numeral: its mark, its sign if one is written, and its digits. -/
structure Exponent where
  mark : CodePoint
  sign : Option CodePoint
  digits : Text
  deriving DecidableEq, Repr

/-- An unsigned numeral as it is spelled. Without a point there is no fraction; with a point
either side of it may be without digits, but not both. -/
structure Numeral where
  whole : Text
  fraction : Option Text
  exponent : Option Exponent
  deriving DecidableEq, Repr

namespace Exponent

/-- The exponent as it is written. -/
def spelling (e : Exponent) : Text :=
  e.mark :: e.sign.toList ++ e.digits

/-- The power of ten that the exponent asks for. -/
def value (e : Exponent) : Int :=
  if e.sign = some (.char '-') then -(digitsValue e.digits : Int) else digitsValue e.digits

/-- Digits with the sign before them, if there is at least one digit. -/
def scanDigits? (mark : CodePoint) (sign : Option CodePoint) (t : Text) :
    Option (Exponent × Text) :=
  match cut isDigit t with
  | ([], _) => none
  | (ds, rest) => some (⟨mark, sign, ds⟩, rest)

/-- An exponent at the front of a text: `e` or `E`, a sign or none, and at least one digit. -/
def scan? : Text → Option (Exponent × Text)
  | mark :: t =>
    if mark = 'e' || mark = 'E' then
      match t with
      | sign :: ds =>
        if sign = '+' || sign = '-' then scanDigits? mark (some sign) ds
        else scanDigits? mark none (sign :: ds)
      | [] => none
    else none
  | [] => none

end Exponent

namespace Numeral

/-- The numeral as it is written. -/
def spelling (n : Numeral) : Text :=
  n.whole ++ (n.fraction.elim [] (.char '.' :: ·)) ++ (n.exponent.elim [] Exponent.spelling)

/-- A numeral with the exponent that follows it, if one does. -/
def withExponent (whole : Text) (fraction : Option Text) (t : Text) : Numeral × Text :=
  match Exponent.scan? t with
  | some (e, rest) => (⟨whole, fraction, some e⟩, rest)
  | none => (⟨whole, fraction, none⟩, t)

/-- The longest numeral at the front of a text, and what follows it. -/
def scan? (t : Text) : Option (Numeral × Text) :=
  match cut isDigit t with
  | ([], .char '.' :: rest) =>
    match cut isDigit rest with
    | ([], _) => none
    | (fraction, rest) => some (withExponent [] (some fraction) rest)
  | ([], _) => none
  | (whole, .char '.' :: rest) =>
    let (fraction, rest) := cut isDigit rest
    some (withExponent whole (some fraction) rest)
  | (whole, rest) => some (withExponent whole none rest)

/-- All digits of a numeral, read as one integer. -/
def mantissa (n : Numeral) : Nat :=
  digitsValue (n.whole ++ n.fraction.getD [])

/-- The power of ten that the mantissa is multiplied by. -/
def scale (n : Numeral) : Int :=
  n.exponent.elim 0 Exponent.value - (n.fraction.getD []).length

/-- The double nearest to the numeral, infinite when it is too large. -/
def value (n : Numeral) : Float :=
  Float.ofScientific n.mantissa (n.scale < 0) n.scale.natAbs

/-- A text that is one numeral. -/
def ofText? (t : Text) : Option Numeral :=
  match scan? t with
  | some (n, []) => some n
  | _ => none

end Numeral

/-- A sign at the front of a text, and the rest; without one the text is positive. -/
def splitSign : Text → Bool × Text
  | .char '-' :: t => (true, t)
  | .char '+' :: t => (false, t)
  | t => (false, t)

/-- The double that a trimmed text writes as a signed numeral, however large. -/
def signedValue? (t : Text) : Option Float :=
  let (negative, digits) := splitSign t
  (Numeral.ofText? digits).map fun n => if negative then -n.value else n.value

/-- The number that a text writes: a signed numeral with white space around it and a finite
value. Any other text is not a number. -/
def readNumber (t : Text) : Option Float :=
  (signedValue? (trim t)).filter Float.isFinite

end Spreadsheet
