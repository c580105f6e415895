import Spreadsheet.Snapshot.Stored

/-!
# Stores

A store keeps every sheet as a row, and the sheets in use also live. A sheet that is not live is
read from its row when it is asked for; `save` writes a live sheet back into its row and `evict`
lets go of it.
-/

namespace Spreadsheet

open Std (ExtTreeMap)

/-- A stored sheet. Rows made before any cell was saved have no text of cells. -/
structure Row where
  title : Text
  rows : Int
  columns : Int
  cells : Option String
  deriving DecidableEq, Repr

namespace Row

/-- The row of a snapshot. -/
def ofSnapshot (title : Text) (d : Snapshot) : Row :=
  ⟨title, d.rows, d.columns, some (Snapshot.writeCells d.cells)⟩

/-- The text of the cells; a missing or empty one stands for no cells. -/
def cellsText (r : Row) : String :=
  match r.cells with
  | none => Snapshot.writeCells []
  | some stored => if stored.isEmpty then Snapshot.writeCells [] else stored

/-- The snapshot of a row. -/
def snapshot (check : CellsCheck) (r : Row) : Except Fault Snapshot := do
  let cells ← Snapshot.readCells check r.cellsText
  .ok ⟨r.rows, r.columns, cells⟩

/-- Replaces what a row keeps of its sheet. -/
def update (r : Row) (d : Snapshot) : Row :=
  ofSnapshot r.title d

end Row

/-- What a store is set up with. -/
structure Setup where
  /-- The language of all sheets. -/
  language : Language
  /-- The rows of a sheet that is created without a number of rows. -/
  rows : Int
  /-- The columns of a sheet that is created without a number of columns. -/
  columns : Int
  /-- How stored cells are checked when they are read. -/
  check : CellsCheck

/-- The stored sheets and those that are live, by their identifiers. -/
structure Store where
  setup : Setup
  rows : ExtTreeMap Text Row
  live : ExtTreeMap Text Sheet
  /-- How many sheets have been created. -/
  created : Nat

namespace Store

/-- The store without sheets. -/
def empty (setup : Setup) : Store :=
  ⟨setup, ∅, ∅, 0⟩

/-- A store of given rows, with no sheet live. -/
def ofRows (setup : Setup) (rows : List (Text × Row)) : Store :=
  { empty setup with rows := .ofList rows }

/-- Numbers of rows or columns from here on are too large for a store, and so are those below its
negation. -/
def boundLimit : Int := Nat.pow 2 63

/-- A number of rows or columns can be stored. -/
def IsBound (n : Int) : Prop :=
  -boundLimit ≤ n ∧ n < boundLimit

instance (n : Int) : Decidable (IsBound n) :=
  inferInstanceAs (Decidable (_ ∧ _))

/-- The identifier of the next sheet to be created. -/
def nextId (st : Store) : Text :=
  "s" ++ toString (st.created + 1)

/-- Keeps a sheet live. -/
def keep (st : Store) (id : Text) (s : Sheet) : Store :=
  { st with live := st.live.insert id s }

/-- Stores a sheet under a new identifier and keeps it live. The title has to be well formed. -/
def add (st : Store) (title : Text) (s : Sheet) : Except Fault Store :=
  if ¬title.IsWellFormed then .error .illFormedTitle
  else if IsBound s.rows ∧ IsBound s.columns then
    .ok { st.keep st.nextId s with
      rows := st.rows.insert st.nextId (.ofSnapshot title s.snapshot)
      created := st.created + 1 }
  else .error .boundsTooLarge

/-- A sheet by its identifier, and the store in which it is live. -/
def load (st : Store) (id : Text) : Except Fault (Option (Store × Sheet)) :=
  match st.live[id]? with
  | some s => .ok (some (st, s))
  | none =>
    match st.rows[id]? with
    | none => .ok none
    | some row => do
      let s ← Sheet.ofSnapshot st.setup.language (← row.snapshot st.setup.check)
      .ok (some (st.keep id s, s))

/-- Writes a live sheet into its row. -/
def save (st : Store) (id : Text) : Store :=
  match st.live[id]? with
  | none => st
  | some s => { st with rows := st.rows.modify id fun row => row.update s.snapshot }

/-- Lets go of a live sheet. -/
def evict (st : Store) (id : Text) : Store :=
  { st with live := st.live.erase id }

/-- Removes a sheet. -/
def delete (st : Store) (id : Text) : Store :=
  { st.evict id with rows := st.rows.erase id }

/-- Gives a sheet another title, which has to be well formed. -/
def retitle (st : Store) (id title : Text) : Except Fault Store :=
  if title.IsWellFormed then
    .ok { st with rows := st.rows.modify id fun row => { row with title := title } }
  else .error .illFormedTitle

/-- The identifiers and titles of all sheets, in the order of the identifiers. When a sheet was last
changed is not kept, so the order by that time is left out. -/
def titles (st : Store) : List (Text × Text) :=
  st.rows.toList.map fun (id, row) => (id, row.title)

end Store

end Spreadsheet
