import Spreadsheet.Json.Reader
import Spreadsheet.Json.Writer
import Spreadsheet.Snapshot
import Spreadsheet.Style.Stored

/-!
# Stored snapshots

The cells of a snapshot are stored as the text of an object that maps the name of a cell to its
text and style. What such an object has to be like when it is read is up to a `CellsCheck`.
-/

namespace Spreadsheet

namespace StoredCell

/-- Reads a stored cell; the style may be missing. -/
def shape : Shape StoredCell :=
  Shape.record fun fields =>
    StoredCell.mk <$> Shape.required "raw_input" Shape.text fields
      <*> Shape.optional "style" .plain Style.shape fields

/-- A cell as it is stored. -/
def toJson (c : StoredCell) : Json :=
  .object [("raw_input", .string c.raw), ("style", c.style.toJson)]

/-- A cell that is stored reads back as it was. -/
theorem shape_toJson (c : StoredCell) : shape c.toJson = .ok c := by
  have raw : Shape.required "raw_input" Shape.text
      [("raw_input", .string c.raw), ("style", c.style.toJson)] = .ok c.raw := rfl
  have style : Shape.optional "style" .plain Style.shape
      [("raw_input", .string c.raw), ("style", c.style.toJson)] = .ok c.style := by
    simp [Shape.optional, List.lookup_cons, Style.shape_toJson, Checked.within]
  simp only [shape, toJson, Shape.record, raw, style]
  rfl

end StoredCell

/-- Cells as they are stored. -/
def Json.ofCells (cells : List (Text × StoredCell)) : Json :=
  .object (cells.map fun (key, c) => (key, c.toJson))

/-- A way to check stored cells when they are read: what counts as a truth value, as an integer or
as a text is up to it. -/
abbrev CellsCheck := Json → Checked (List (Text × StoredCell))

/-- The check that converts nothing. -/
def CellsCheck.strict : CellsCheck :=
  Shape.dictionary StoredCell.shape

namespace Snapshot

/-- The text of stored cells. -/
def writeCells (cells : List (Text × StoredCell)) : String :=
  (Json.ofCells cells).write

/-- The cells of a stored text. -/
def readCells (check : CellsCheck) (stored : String) : Except Fault (List (Text × StoredCell)) :=
  match Json.read? stored with
  | none => .error .malformedJson
  | some j => ((check j).within "cells").toExcept

end Snapshot

end Spreadsheet
