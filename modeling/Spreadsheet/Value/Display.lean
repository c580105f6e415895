import Spreadsheet.Fault
import Spreadsheet.Number.Shortest

/-!
# Displayed values

`CellValue.display` is the text that a cell shows. Numbers that are not finite have no text; a
sheet never holds one.
-/

namespace Spreadsheet

namespace CellValue

/-- The text that a cell shows for a value. -/
def display : CellValue → Except Fault Text
  | empty => .ok ""
  | number x =>
    match numberText? x with
    | some shown => .ok shown
    | none => .error (if x.isNaN then .undefinedText else .infiniteText)
  | integer n => .ok (toString n.val)
  | text t => .ok t
  | error code => .ok code.token

/-- A value as a member of a list is shown: a text between quotes, a number that reads back. -/
def listed : CellValue → Text
  | empty => "None"
  | number x => exactText x
  | integer n => toString n.val
  | v => v.quoted

end CellValue

namespace Value

/-- The text of a value. The members of a range or an array are listed between brackets. -/
def display : Value → Except Fault Text
  | scalar v => v.display
  | range members _ | array members =>
    .ok ("[" ++ List.intercalate ", " (members.map CellValue.listed) ++ "]")

end Value

end Spreadsheet
