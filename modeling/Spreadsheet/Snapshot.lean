import Spreadsheet.Sheet

/-!
# Snapshots

A snapshot is what has to be kept of a sheet: its bounds, and for every populated cell the text
and the style under the name of the cell. Values are computed again when a sheet is made from it.
-/

namespace Spreadsheet

/-- What is kept of a cell. -/
structure StoredCell where
  raw : Text
  style : Style
  deriving DecidableEq, Repr

/-- What is kept of a sheet. -/
structure Snapshot where
  rows : Int
  columns : Int
  cells : List (Text × StoredCell)
  deriving DecidableEq, Repr

namespace Snapshot

/-- The address that a key of a snapshot names. -/
def keyAddress (key : Text) : Except Fault Address := do
  match ← Address.decode key with
  | some a => .ok a
  | none => .error (.badStoredAddress key)

/-- The addresses of a snapshot with what is kept of their cells. -/
def addressed (d : Snapshot) : Except Fault (List (Address × StoredCell)) :=
  d.cells.mapM fun (key, cell) => do
    let a ← keyAddress key
    .ok (a, cell)

end Snapshot

namespace Sheet

/-- What has to be kept of a sheet, cells in the order of their addresses. -/
def snapshot (s : Sheet) : Snapshot :=
  ⟨s.rows, s.columns, s.grid.cells.toList.map fun (a, c) => (a.label, ⟨c.raw, c.style⟩)⟩

/-- Sets the styles of those cells of a list that are populated. -/
def restoreStyles (g : Grid) (cells : List (Address × StoredCell)) : Grid :=
  cells.foldl (fun g (a, stored) => g.change a fun c => { c with style := stored.style }) g

/-- The sheet of a snapshot, with all values computed. -/
def ofSnapshot (language : Language) (d : Snapshot) : Except Fault Sheet := do
  let cells ← d.addressed
  let edits ← resolveAll (cells.map fun (a, c) => ⟨.placed a, some c.raw⟩)
  let update := (empty language d.rows d.columns).applyEdits edits
  match update.result with
  | .error f => .error f
  | .ok _ => .ok { update.sheet with grid := restoreStyles update.sheet.grid cells }

end Sheet

end Spreadsheet
