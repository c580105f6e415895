import Spreadsheet.Dependency
import Spreadsheet.Grid
import Spreadsheet.Value.Display

/-!
# Sheets

A sheet is a grid, the dependency graph of its formulas and the language that they are written in.
`write` puts a text into one cell and `recompute` brings the values of what depends on some cells up
to date. An operation that fails midway leaves the sheet as far as it came, so both give the sheet
beside the fault.
-/

namespace Spreadsheet

open Std (ExtTreeMap)

/-- A sheet. The numbers of rows and columns are kept for display; addresses are not bounded by
them. -/
structure Sheet where
  language : Language
  rows : Int
  columns : Int
  grid : Grid
  graph : DependencyGraph

namespace Sheet

/-- A sheet without cells. -/
def empty (language : Language) (rows columns : Int) : Sheet :=
  ⟨language, rows, columns, .empty, .empty⟩

/-! ## Writing -/

/-- Replaces what a cell reads. -/
def setReferences (s : Sheet) (a : Address) (refs : References) : Sheet × Option Fault :=
  let (graph, fault) := s.graph.setReferences a refs
  ({ s with graph := graph }, fault)

/-- Empties a cell. -/
def clear (s : Sheet) (a : Address) : Sheet × Option Fault :=
  { s with grid := s.grid.erase a }.setReferences a .empty

/-- Writes a text that is not blank into a cell. -/
def fill (s : Sheet) (a : Address) (raw : Text) : Sheet × Option Fault :=
  match Content.read s.language raw with
  | .error f => (s, some f)
  | .ok content => { s with grid := s.grid.put a raw content }.setReferences a content.reads

/-- Writes a text into a cell; no text, or a blank one, empties it. Nothing is computed. -/
def write (s : Sheet) (a : Address) : Option Text → Sheet × Option Fault
  | none => s.clear a
  | some raw => if Text.IsBlank raw then s.clear a else s.fill a raw

/-! ## Computing -/

/-- The value that a cell has according to the values around it. -/
def compute (s : Sheet) (a : Address) : Except Fault CellValue :=
  match s.grid.contents[a]? with
  | none => if s.graph.hasReferences a then .error (.edgesWithoutContent a) else .ok .empty
  | some (.literal v) => .ok v
  | some (.formula f) =>
    match evaluate s.language s.grid.reader f with
    | .ok v => .ok v
    | .error (.formula e) => .ok (.error e.code)
    | .error _ => .ok (.error .failure)

/-- What cells displayed before they were written. -/
abbrev Displays := ExtTreeMap Address Text

/-- A sheet being recomputed, and the cells whose display has changed so far. -/
structure Progress where
  sheet : Sheet
  changed : List Address

namespace Progress

/-- Stores the value of a cell, and reports the cell if its display differs from before. -/
def store (before : Displays) (p : Progress) (a : Address) (v : CellValue) :
    Progress × Option Fault :=
  let old : Except Fault Text :=
    match before[a]? with
    | some shown => .ok shown
    | none => (p.sheet.grid.value a).display
  match old with
  | .error f => (p, some f)
  | .ok old =>
    let sheet := { p.sheet with grid := p.sheet.grid.setValue a v }
    match v.display with
    | .error f => (⟨sheet, p.changed⟩, some f)
    | .ok new => (⟨sheet, if new = old then p.changed else p.changed ++ [a]⟩, none)

/-- Stores a value in every cell of a list. -/
def storeAll (before : Displays) (v : CellValue) :
    Progress → List Address → Progress × Option Fault
  | p, [] => (p, none)
  | p, a :: rest =>
    match p.store before a v with
    | (p, some f) => (p, some f)
    | (p, none) => storeAll before v p rest

/-- Whether a component of the schedule is a cycle. -/
def isCycle (g : DependencyGraph) : List Address → Bool
  | [a] => g.isSelfReferencing a
  | _ => true

/-- The addresses of a component in ascending order. -/
def inOrder (component : List Address) : List Address :=
  (Std.ExtTreeSet.ofList component).toList

/-- Recomputes a component: its one cell, or all of a cycle, whose cells get the cycle error. -/
def advance (before : Displays) (p : Progress) (component : List Address) :
    Progress × Option Fault :=
  if isCycle p.sheet.graph component then
    p.storeAll before (.error .cycle) (inOrder component)
  else
    match component with
    | [] => (p, none)
    | a :: _ =>
      match p.sheet.compute a with
      | .error f => (p, some f)
      | .ok v => p.store before a v

/-- Recomputes the components of a schedule in turn. -/
def run (before : Displays) : Progress → List (List Address) → Progress × Option Fault
  | p, [] => (p, none)
  | p, component :: rest =>
    match p.advance before component with
    | (p, some f) => (p, some f)
    | (p, none) => run before p rest

end Progress

/-- The outcome of an operation that recomputes: the sheet, and the cells whose display changed
or the fault that ended the operation. -/
structure Update where
  sheet : Sheet
  result : Except Fault (List Address)

namespace Update

/-- The messages that every subscriber receives: the changed cells, if there are any. -/
def notifications (u : Update) : List (List Address) :=
  match u.result with
  | .ok (a :: rest) => [a :: rest]
  | _ => []

/-- The calls that deliver a message to one subscriber after the other, up to the first one that
does not return. -/
def deliver {σ : Type} (returns : σ → List Address → Bool) (message : List Address) :
    List σ → List (σ × List Address)
  | [] => []
  | x :: rest =>
    (x, message) :: if returns x message then deliver returns message rest else []

/-- The calls that an operation makes to its subscribers. -/
def calls {σ : Type} (returns : σ → List Address → Bool) (u : Update) (subscribers : List σ) :
    List (σ × List Address) :=
  u.notifications.flatMap fun message => deliver returns message subscribers

end Update

/-- Recomputes some cells and what depends on them. The displays of cells that were written are
given; those of the others are taken when they are stored. -/
def recompute (s : Sheet) (roots : List Address) (before : Displays) : Update :=
  match Progress.run before ⟨s, []⟩ (s.graph.schedule (s.graph.affected roots)) with
  | (p, some f) => ⟨p.sheet, .error f⟩
  | (p, none) => ⟨p.sheet, .ok p.changed⟩

/-- Recomputes every cell. -/
def recalculate (s : Sheet) : Update :=
  s.recompute s.grid.cells.keys ∅

/-! ## Editing -/

/-- A cell named by a caller, by its text or by its place. -/
inductive Target where
  | named (t : Text)
  | placed (a : Address)
  deriving DecidableEq, Repr

/-- An address that a caller may use. -/
def checkAddress (a : Address) : Except Fault Address :=
  if a.InBounds then .ok a
  else if Decimal.maxDigits < Decimal.length a.row.natAbs ||
      Decimal.maxDigits < Decimal.length a.column.natAbs then .error .numeralTooLong
  else .error (.outOfBounds a)

namespace Target

/-- The address of a target. -/
def resolve : Target → Except Fault Address
  | named t => do
    let a ← Address.parse t
    checkAddress a
  | placed a => checkAddress a

end Target

/-- A text for a cell; no text empties it. -/
structure Edit where
  target : Target
  raw : Option Text
  deriving DecidableEq, Repr

/-- The addresses and texts of a batch, if every address may be used. -/
def resolveAll (edits : List Edit) : Except Fault (List (Address × Option Text)) :=
  edits.mapM fun e => do
    let a ← e.target.resolve
    .ok (a, e.raw)

/-- A sheet being written, and what the cells written so far displayed before. -/
structure Written where
  sheet : Sheet
  before : Displays

namespace Written

/-- Notes what a cell displays, unless it has been noted. -/
def note (w : Written) (a : Address) : Except Fault Written :=
  if w.before.contains a then .ok w
  else
    match (w.sheet.grid.value a).display with
    | .error f => .error f
    | .ok shown => .ok ⟨w.sheet, w.before.insert a shown⟩

/-- Writes texts into cells one after the other. -/
def writeAll : Written → List (Address × Option Text) → Written × Option Fault
  | w, [] => (w, none)
  | w, (a, raw) :: rest =>
    match w.note a with
    | .error f => (w, some f)
    | .ok w =>
      match w.sheet.write a raw with
      | (sheet, some f) => (⟨sheet, w.before⟩, some f)
      | (sheet, none) => writeAll ⟨sheet, w.before⟩ rest

end Written

/-- Writes a batch of checked edits and recomputes once what they affect. -/
def applyEdits (s : Sheet) (edits : List (Address × Option Text)) : Update :=
  match Written.writeAll ⟨s, ∅⟩ edits with
  | (w, some f) => ⟨w.sheet, .error f⟩
  | (w, none) => w.sheet.recompute w.before.keys w.before

/-- Applies a batch of edits. Every address is checked before anything is written. -/
def setCells (s : Sheet) (edits : List Edit) : Update :=
  match resolveAll edits with
  | .error f => ⟨s, .error f⟩
  | .ok edits => s.applyEdits edits

/-- Applies one edit. -/
def setCell (s : Sheet) (e : Edit) : Update :=
  s.setCells [e]

/-- Sets the style of a populated cell. -/
def setStyle (s : Sheet) (t : Target) (style : Style) : Except Fault Sheet := do
  let a ← t.resolve
  if s.grid.cells.contains a then
    .ok { s with grid := s.grid.change a fun c => { c with style := style } }
  else .error (.emptyCell a)

/-! ## Reading -/

/-- What a cell without entry looks like. -/
def emptyCell : Cell :=
  ⟨"", .empty, .plain⟩

/-- The cell at an address. -/
def cellAt (s : Sheet) (a : Address) : Cell :=
  s.grid.cells.getD a emptyCell

/-- The cell of a target. -/
def getCell (s : Sheet) (t : Target) : Except Fault Cell := do
  let a ← t.resolve
  .ok (s.cellAt a)

/-- The values of a range row by row, an empty cell as the empty text. -/
def rangeValues (s : Sheet) (r : CellRange) : List CellValue :=
  r.cells.map fun a =>
    match s.grid.value a with
    | .empty => .text ""
    | v => v

end Sheet

end Spreadsheet
