import Std.Data.ExtTreeMap
import Spreadsheet.Content
import Spreadsheet.Evaluation
import Spreadsheet.Style

/-!
# Grids

A grid holds the cells that are not empty, and apart from them what their texts stand for.
`populatedMembers` lists the populated addresses of a range row by row: it walks the range or the
populated addresses, whichever is less.
-/

namespace Spreadsheet

open Std (ExtTreeMap)

/-- The addresses of a range that have an entry in a map, row by row. -/
def populatedMembers {β : Type} (m : ExtTreeMap Address β) (r : CellRange) : List Address :=
  if r.size ≤ m.size then r.cells.filter fun a => m.contains a
  else m.keys.filter fun a => r.Covers a

/-- A reader of values kept in a map, which lists only the populated addresses of a range. -/
def CellReader.sparse (m : ExtTreeMap Address CellValue) : CellReader :=
  ⟨fun a => m.getD a .empty, populatedMembers m⟩

/-- A populated cell: the text written into it, the value computed from it, and its style. -/
structure Cell where
  raw : Text
  value : CellValue
  style : Style
  deriving Inhabited

/-- The populated cells of a sheet, and what the texts of the cells stand for. Nothing here says
that both maps have the same addresses: that is up to those who write into them. -/
@[ext]
structure Grid where
  cells : ExtTreeMap Address Cell
  contents : ExtTreeMap Address Content

namespace Grid

/-- The grid without cells. -/
def empty : Grid :=
  ⟨∅, ∅⟩

/-- The value of a cell; a cell that is not populated is empty. -/
def value (g : Grid) (a : Address) : CellValue :=
  match g.cells[a]? with
  | some c => c.value
  | none => .empty

/-- The reader of a grid. -/
def reader (g : Grid) : CellReader :=
  ⟨g.value, populatedMembers g.cells⟩

/-- Writes a text into a cell. The value and the style of a populated cell stay as they are. -/
def put (g : Grid) (a : Address) (raw : Text) (content : Content) : Grid :=
  let cell : Cell :=
    match g.cells[a]? with
    | some c => { c with raw := raw }
    | none => ⟨raw, .empty, .plain⟩
  ⟨g.cells.insert a cell, g.contents.insert a content⟩

/-- Empties a cell. -/
def erase (g : Grid) (a : Address) : Grid :=
  ⟨g.cells.erase a, g.contents.erase a⟩

/-- Changes a cell if it is populated. -/
def change (g : Grid) (a : Address) (f : Cell → Cell) : Grid :=
  match g.cells[a]? with
  | some c => { g with cells := g.cells.insert a (f c) }
  | none => g

/-- Sets the value of a cell if it is populated. -/
def setValue (g : Grid) (a : Address) (v : CellValue) : Grid :=
  g.change a fun c => { c with value := v }

end Grid

end Spreadsheet
