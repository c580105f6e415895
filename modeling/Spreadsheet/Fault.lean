import Spreadsheet.CellRange
import Spreadsheet.Text.Quoted
import Spreadsheet.Value

/-!
# Faults

Everything that can go wrong, by cause. A `FormulaError` is an error of the formula language: it
has a code, which a cell shows, and a message. The other faults are not part of the language: a
limit was passed, a caller asked for something that is not there, or the data do not fit.
-/

namespace Spreadsheet

/-- A formula that is not well formed. Positions count code points from zero. -/
inductive Malformed where
  | unexpected (text : Text) (pos : Nat)
  | empty
  | unexpectedEnd
  | expected (wanted got : Text) (pos : Nat)
  | unknownFunction (name : Text)
  | badReference (text : Text) (pos : Nat)
  | referenceExpected (pos : Nat)
  deriving DecidableEq, Repr

/-- A reference to a place that does not exist. -/
inductive BadReference where
  | address (text : Text)
  | range (text : Text)
  | rowNumber (text : Text)
  | outOfBounds (text : Text)
  deriving DecidableEq, Repr

/-- An operand of the wrong kind, or the wrong number of them. -/
inductive BadOperand where
  | count (name : Text) (count : Int)
  | rangeAsCondition
  | rangeAsNumber
  | rangeAsValue
  | rangeInComparison
  | notACondition (v : CellValue)
  | notANumber (v : CellValue)
  | unordered
  deriving DecidableEq

/-- A number that does not exist or is too large. -/
inductive OutOfRange where
  | literal (text : Text)
  | result
  | divisionByZero
  deriving DecidableEq, Repr

/-- A node that no rule evaluates. -/
inductive Unevaluable where
  | operator (symbol : Text)
  | node
  deriving DecidableEq, Repr

/-- An error of the formula language. -/
inductive FormulaError where
  | malformed (e : Malformed)
  | badReference (e : BadReference)
  | badOperand (e : BadOperand)
  | outOfRange (e : OutOfRange)
  | unevaluable (e : Unevaluable)
  | inherited (source : Address) (code : ErrorCode)
  | failed (code : ErrorCode) (message : Text)
  deriving DecidableEq

/-- Anything that can go wrong. -/
inductive Fault where
  /-- An error of the formula language. -/
  | formula (e : FormulaError)
  /-- A formula is nested too deeply to be read or evaluated. -/
  | nestingTooDeep
  /-- An integer of more digits than are read or written. -/
  | numeralTooLong
  /-- The library has no function of this name. -/
  | unknownFunction (name : Text)
  /-- An integer stands where a number or a text is needed. -/
  | integerOperand
  /-- A lazy function was given fewer operands than it looks at. -/
  | missingOperand
  /-- A count of operands is beyond the doubles. -/
  | countTooLarge
  /-- An infinite number has no text. -/
  | infiniteText
  /-- An undefined number has no text. -/
  | undefinedText
  | negativeColumn (column : Int)
  | negativeRow (row : Int)
  | outOfBounds (a : Address)
  | badStoredAddress (key : Text)
  /-- An empty cell has no style to set. -/
  | emptyCell (a : Address)
  /-- An edge of the dependency graph is not there in the other direction. -/
  | missingReverseEdge (target : Reference) (reader : Address)
  /-- An empty cell has edges in the dependency graph. -/
  | edgesWithoutContent (a : Address)
  /-- A count of rows or columns is too large to be stored. -/
  | boundsTooLarge
  /-- A title with a surrogate cannot be stored. -/
  | illFormedTitle
  /-- Stored text is not JSON. -/
  | malformedJson
  /-- Data that do not have the required shape, with the paths of the fields at fault. -/
  | invalid (paths : List String)
  deriving DecidableEq

/-! ## Messages -/

namespace CellValue

/-- A text or error value as messages show it. -/
def quoted : CellValue → Text
  | text t => t.quoted
  | error c => "<ErrorValue." ++ c.word ++ ": '" ++ c.token ++ "'>"
  | _ => ""

end CellValue

namespace Malformed

/-- The message of a formula that is not well formed. -/
def message : Malformed → Text
  | unexpected text pos => "Unexpected '" ++ text ++ "' at pos " ++ toString pos
  | empty => "Empty expression"
  | unexpectedEnd => "Unexpected end of expression"
  | expected wanted got pos =>
    "Expected '" ++ wanted ++ "', got '" ++ got ++ "' at pos " ++ toString pos
  | unknownFunction name => "Unknown function: " ++ name
  | badReference text pos =>
    "Malformed cell reference '" ++ text ++ "' at pos " ++ toString pos
  | referenceExpected pos => "Expected cell reference after ':' at pos " ++ toString pos

end Malformed

namespace BadReference

/-- The message of a reference to a place that does not exist. -/
def message : BadReference → Text
  | address text => "Bad cell reference: " ++ text
  | range text => "Bad range: " ++ text
  | rowNumber text => "Bad row number: " ++ text
  | outOfBounds text => "Reference out of bounds: " ++ text

end BadReference

namespace BadOperand

/-- The message of an operand of the wrong kind. -/
def message : BadOperand → Text
  | count name n => name ++ " got " ++ toString n ++ " arguments"
  | rangeAsCondition => "Range used as a condition"
  | rangeAsNumber => "Range used as a number"
  | rangeAsValue => "Range used as a value"
  | rangeInComparison => "Range used in a comparison"
  | notACondition v => "Not a condition: " ++ v.quoted
  | notANumber v => "Not a number: " ++ v.quoted
  | unordered => "Cannot order text against a number"

end BadOperand

namespace OutOfRange

/-- The message of a number that does not exist. -/
def message : OutOfRange → Text
  | literal text => "Number out of range: " ++ text
  | result => "Non-finite result"
  | divisionByZero => "Division by zero"

end OutOfRange

namespace Unevaluable

/-- The message of a node that no rule evaluates. -/
def message : Unevaluable → Text
  | operator symbol => "Unknown operator: " ++ symbol
  | node => "Unknown node: Node"

end Unevaluable

namespace FormulaError

/-- The message of an error of the formula language. -/
def message : FormulaError → Text
  | malformed e => e.message
  | badReference e => e.message
  | badOperand e => e.message
  | outOfRange e => e.message
  | unevaluable e => e.message
  | inherited source _ => "Error in " ++ source.label
  | failed _ text => text

/-- What a cell shows for an error. -/
def code : FormulaError → ErrorCode
  | malformed _ => .failure
  | badReference _ => .reference
  | badOperand _ => .value
  | outOfRange _ => .division
  | unevaluable _ => .failure
  | inherited _ code => code
  | failed code _ => code

end FormulaError

namespace Fault

/-- The message of a fault. The limits and the faults of operands have none. -/
def message? : Fault → Option Text
  | formula e => some e.message
  | unknownFunction name => some name
  | negativeColumn c => some ("Column index must be >= 0: " ++ toString c)
  | negativeRow r => some ("Row index must be >= 0: " ++ toString r)
  | outOfBounds a =>
    some ("Address out of bounds: (" ++ toString a.row ++ ", " ++ toString a.column ++ ")")
  | badStoredAddress key => some ("Bad cell address in sheet data: " ++ key)
  | emptyCell a => some a.label
  | missingReverseEdge target reader =>
    some ("Dependency graph corrupted: no reverse edge " ++ target.label ++ " -> " ++
      reader.label)
  | edgesWithoutContent a =>
    some ("Dependency graph out of sync: " ++ a.label ++ " has edges but no content")
  | _ => none

end Fault

end Spreadsheet
