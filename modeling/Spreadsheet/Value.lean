import Spreadsheet.Number.Decimal
import Spreadsheet.Text

/-!
# Values

A cell holds a `CellValue`. A part of a formula evaluates to a `Value`: a cell value, or the
members of a range. The sum of no operands is an *integer*, which is not a number of the sheet:
it is displayed as one and compares as one, but no arithmetic takes it. Every integer in a cell has
a text, so it has no more digits than can be written.
-/

namespace Spreadsheet

/-- What went wrong in a cell, as the cell shows it. -/
inductive ErrorCode where
  | failure
  | reference
  | value
  | division
  | cycle
  deriving DecidableEq, Repr, Inhabited

namespace ErrorCode

/-- The text that stands in the cell. -/
def token : ErrorCode → Text
  | failure => "#ERRO"
  | reference => "#REF!"
  | value => "#VALOR!"
  | division => "#DIV/0!"
  | cycle => "#CICLO!"

/-- The word that names the code when a message shows an error value. -/
def word : ErrorCode → Text
  | failure => "ERROR"
  | reference => "REF"
  | value => "VALUE"
  | division => "DIV0"
  | cycle => "CYCLE"

end ErrorCode

/-- An integer of no more digits than can be written. -/
structure ShortInt where
  val : Int
  length_le : Decimal.length val.natAbs ≤ Decimal.maxDigits
  deriving DecidableEq

namespace ShortInt

instance : OfNat ShortInt 0 :=
  ⟨⟨0, by decide⟩⟩

/-- An integer, if it is short enough to be written. -/
def ofInt? (n : Int) : Option ShortInt :=
  if h : Decimal.length n.natAbs ≤ Decimal.maxDigits then some ⟨n, h⟩ else none

end ShortInt

/-- The value of a cell. -/
inductive CellValue where
  | empty
  | number (x : Float)
  | integer (n : ShortInt)
  | text (t : Text)
  | error (code : ErrorCode)
  deriving DecidableEq, Inhabited

/-- The value of a part of a formula. A range may leave out empty members, so it carries the
number of addresses it stands for; an array is a bare list of values. -/
inductive Value where
  | scalar (v : CellValue)
  | range (members : List CellValue) (size : Int)
  | array (members : List CellValue)
  deriving DecidableEq, Inhabited

namespace Value

/-- A number as the value of a part of a formula. -/
def number (x : Float) : Value :=
  scalar (.number x)

/-- The scalar operands that a value contributes to a list of arguments. -/
def operands : Value → List CellValue
  | scalar v => [v]
  | range members _ => members
  | array members => members

end Value

end Spreadsheet
