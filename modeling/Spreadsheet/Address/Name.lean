import Spreadsheet.Fault
import Spreadsheet.Number.Decimal
import Spreadsheet.Text.Blank
import Spreadsheet.Text.Cut
import Spreadsheet.Text.Digit
import Spreadsheet.Text.Upper

/-!
# Names of addresses and ranges

`Address.encode` writes an address as column letters and a row number, `Address.decode` reads a
text of that form in either case, and `Address.parse` reads it with white space around it. A row
number has no leading zero, so every address has one name. `CellRange.encode` and
`CellRange.parse` do the same for ranges.
-/

namespace Spreadsheet

open Text

namespace Column

/-- The name of a column, which must not be negative. -/
def encode (column : Int) : Except Fault Text :=
  if column < 0 then .error (.negativeColumn column)
  else .ok (letters column.toNat)

/-- The column that a text names, in either case. -/
def decode (t : Text) : Int :=
  index (upper t)

end Column

namespace Address

/-- The name of an address, whose coordinates must not be negative. -/
def encode (a : Address) : Except Fault Text :=
  if a.row < 0 then .error (.negativeRow a.row)
  else if a.column < 0 then .error (.negativeColumn a.column)
  else if Decimal.maxDigits < Decimal.length (a.row + 1).toNat then .error .numeralTooLong
  else .ok a.label

/-- Whether a code point is an ASCII digit. -/
def isRowDigit (c : CodePoint) : Bool :=
  c.satisfies Char.isDigit

/-- Whether a text is a row number: ASCII digits, the first of them not zero. -/
def isRowNumber : Text → Bool
  | [] => false
  | d :: ds => isRowDigit d && d != '0' && ds.all isRowDigit

/-- The letters at the front of a text in upper case, and what follows them. -/
def splitName (t : Text) : Text × Text :=
  cut Column.isLetter (upper t)

/-- The address that a text names: letters in either case and a row number. A text of another
form names none. -/
def decode (t : Text) : Except Fault (Option Address) :=
  let (letters, digits) := splitName t
  if letters.isEmpty || !isRowNumber digits then .ok none
  else if Decimal.maxDigits < digits.length then .error .numeralTooLong
  else .ok (some ⟨(digitsValue digits : Int) - 1, Column.index letters⟩)

/-- Whether a text has the letters and digits of a reference, whatever its row number. -/
def hasReferenceShape (t : Text) : Bool :=
  let (letters, digits) := splitName t
  !letters.isEmpty && !digits.isEmpty && digits.all isRowDigit

/-- The address that a text names, with white space around it. -/
def parse (t : Text) : Except Fault Address := do
  match ← decode (trim t) with
  | some a => .ok a
  | none => .error (.formula (.badReference (.address t)))

end Address

namespace CellRange

/-- The name of a range: its corners as they are given, with a colon between them. -/
def encode (r : CellRange) : Except Fault Text := do
  let start ← r.start.encode
  let stop ← r.stop.encode
  .ok (start ++ ":" ++ stop)

/-- The range that a text names: one address, or two with a colon between them. -/
def parse (t : Text) : Except Fault CellRange :=
  match cut (· != .char ':') t with
  | (_, []) => do
    let a ← Address.parse t
    .ok (single a)
  | (before, _ :: after) =>
    if after.contains (.char ':') then .error (.formula (.badReference (.range t)))
    else do
      let start ← Address.parse before
      let stop ← Address.parse after
      .ok ⟨start, stop⟩

end CellRange

end Spreadsheet
