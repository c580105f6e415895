import Spreadsheet.Checked
import Spreadsheet.Style

/-!
# Requests

A request names an operation on the sheets of a store. A body comes as checking has left it: as
data, or as the places at fault. How a body is checked is not told here.
-/

namespace Spreadsheet.Service

/-- The sheet that a body describes. -/
structure Draft where
  title : Text
  rows : Option Int
  columns : Option Int
  cells : List (Text × Text)

/-- A text for the cell that a text names. -/
structure CellEdit where
  address : Text
  value : Text

/-- A request. -/
inductive Request where
  | create (body : Checked Draft)
  | list
  | get (id : Text)
  | delete (id : Text)
  | title (id : Text) (body : Checked Text)
  | cell (id : Text) (body : Checked CellEdit)
  | cells (id : Text) (body : Checked (List CellEdit))
  | recalculate (id : Text)
  | getCell (id address : Text)
  | style (id address : Text) (body : Checked Style)
  | range (id start : Text) (stop : Option Text)
  | formulas (query : Text)

end Spreadsheet.Service
