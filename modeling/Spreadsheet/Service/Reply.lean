import Spreadsheet.Sheet

/-!
# Replies

A request is answered with what was asked for, refused for a reason, found to have a body of the
wrong shape, or fails by a fault that is not the caller's.
-/

namespace Spreadsheet.Service

/-- A cell as it is shown to a caller. The value of an error is empty. -/
structure CellView where
  address : Address
  raw : Text
  value : CellValue
  display : Text
  error : Option ErrorCode
  style : Style

namespace CellView

/-- A value that is shown to a caller, with an integer as a number. -/
def plainValue : CellValue → CellValue
  | .integer n => .number (nearestToInt n.val)
  | .error _ => .empty
  | v => v

/-- The error that a value is. -/
def error? : CellValue → Option ErrorCode
  | .error code => some code
  | _ => none

/-- A cell of a sheet as it is shown to a caller. -/
def ofSheet (s : Sheet) (a : Address) : Except Fault CellView := do
  let c := s.cellAt a
  let shown ← c.value.display
  .ok ⟨a, c.raw, plainValue c.value, shown, error? c.value, c.style⟩

end CellView

/-- A sheet as it is shown to a caller. -/
structure SheetView where
  id : Text
  title : Text
  rows : Int
  columns : Int
  cells : List CellView

/-- What a request asks for. -/
inductive Body where
  | sheet (v : SheetView)
  | titles (sheets : List (Text × Text))
  | title (id title : Text)
  | deleted
  | edited (changed : List Address) (cells : List CellView)
  | cell (v : CellView)
  | values (r : CellRange) (vs : List CellValue)
  | functions (entries : List (Text × Entry))

/-- Why a request is refused. -/
inductive Refusal where
  | unknownSheet
  | emptyTitle
  | emptyCell (a : Address)
  | outOfBounds (t : Text)
  /-- The data of the request lead to a fault. -/
  | unusable (f : Fault)

namespace Refusal

/-- The status that a refusal is answered with. -/
def status : Refusal → Nat
  | unknownSheet | emptyCell _ => 404
  | emptyTitle | outOfBounds _ | unusable _ => 422

/-- What is said about a refusal. -/
def detail? : Refusal → Option Text
  | unknownSheet => some "Sheet not found"
  | emptyTitle => some "Title must not be empty"
  | emptyCell a => some ("Cell " ++ a.label ++ " is empty")
  | outOfBounds t => some ("Address out of bounds: " ++ t)
  | unusable f => f.message?

end Refusal

/-- The answer to a request. -/
inductive Reply where
  | ok (body : Body)
  | refused (r : Refusal)
  | invalid (paths : List String)
  | fault (f : Fault)

namespace Reply

/-- Whether a fault of an edit comes from what the caller asked for. -/
def isCallers : Fault → Bool
  | .formula _ | .numeralTooLong | .undefinedText => true
  | .negativeColumn _ | .negativeRow _ | .outOfBounds _ | .badStoredAddress _ => true
  | .illFormedTitle | .malformedJson | .invalid _ => true
  | _ => false

/-- The reply to a request whose edits ended in a fault. -/
def ofFault (f : Fault) : Reply :=
  if isCallers f then .refused (.unusable f) else .fault f

/-- The reply with a body, if the body could be made. -/
def ofBody : Except Fault Body → Reply
  | .ok body => .ok body
  | .error f => .fault f

end Reply

end Spreadsheet.Service
