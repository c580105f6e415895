import Spreadsheet.Fault
import Spreadsheet.Number.Numeral
import Spreadsheet.Text.Upper

/-!
# Coercions

Where a formula needs a number or a condition, a text stands for the number that it writes.
`number?` is the number of a value if it has one; `toNumber` is what arithmetic takes, with
nothing as zero; `isTrue` is what a condition takes. An integer has none of these.
-/

namespace Spreadsheet

namespace CellValue

/-- The number of a value: a number, or what a text writes. -/
def number? : CellValue → Option Float
  | number x => some x
  | text t => readNumber t
  | _ => none

end CellValue

namespace Value

/-- The number of a value, if it is a scalar that has one. -/
def number? : Value → Option Float
  | scalar v => v.number?
  | _ => none

/-- An error about an operand. -/
def badOperand {α : Type} (e : BadOperand) : Except Fault α :=
  .error (.formula (.badOperand e))

/-- The number that arithmetic takes: an empty cell and an empty text are zero. -/
def toNumber : Value → Except Fault Float
  | scalar .empty => .ok 0
  | scalar (.number x) => .ok x
  | scalar (.integer _) => .error .integerOperand
  | scalar (.text t) =>
    if t.isEmpty then .ok 0
    else
      match readNumber t with
      | some x => .ok x
      | none => badOperand (.notANumber (.text t))
  | scalar (.error c) => badOperand (.notANumber (.error c))
  | _ => badOperand .rangeAsNumber

/-- Whether a condition holds: a number that is not zero, one of the two truth words, or a text
that writes a number. -/
def isTrue : Value → Except Fault Bool
  | scalar .empty => .ok false
  | scalar (.number x) => .ok (x != 0)
  | scalar (.integer _) => .error .integerOperand
  | scalar (.text t) =>
    let word := t.trim.upper
    if word = "TRUE" then .ok true
    else if word = "FALSE" || word = "" then .ok false
    else
      match readNumber word with
      | some x => .ok (x != 0)
      | none => badOperand (.notACondition (.text t))
  | scalar (.error c) => badOperand (.notACondition (.error c))
  | _ => badOperand .rangeAsCondition

end Value

end Spreadsheet
