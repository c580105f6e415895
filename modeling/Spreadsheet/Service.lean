import Spreadsheet.Service.Reply
import Spreadsheet.Service.Request
import Spreadsheet.Store

/-!
# The service

`Service.answer` answers a request and gives the store that it leaves. A body that is at fault is
refused first, then the sheet is looked up, then addresses are read. Edits and styles are saved
at once, a recalculation is not.
-/

namespace Spreadsheet.Service

/-! ## Parts of requests -/

/-- Continues with the data of a body, if it is not at fault. -/
def withBody {α : Type} (st : Store) (body : Checked α) (next : α → Store × Reply) :
    Store × Reply :=
  match body with
  | .ok x => next x
  | .wrong _ => (st, .invalid body.paths)

/-- Continues with a sheet, if there is one of this identifier. -/
def withSheet (st : Store) (id : Text) (next : Store → Sheet → Store × Reply) :
    Store × Reply :=
  match st.load id with
  | .error f => (st, .fault f)
  | .ok none => (st, .refused .unknownSheet)
  | .ok (some (st, s)) => next st s

/-- The address that a text of a request names. -/
def address (t : Text) : Except Reply Address :=
  match Address.parse t with
  | .error (.formula e) => .error (.refused (.unusable (.formula e)))
  | .error f => .error (.fault f)
  | .ok a => if a.InBounds then .ok a else .error (.refused (.outOfBounds t))

/-- Continues with the address that a text of a request names. -/
def withAddress (st : Store) (t : Text) (next : Address → Store × Reply) : Store × Reply :=
  match address t with
  | .error reply => (st, reply)
  | .ok a => next a

/-! ## Views -/

/-- The view of a whole sheet. -/
def sheetBody (st : Store) (id : Text) (s : Sheet) : Reply :=
  match st.rows[id]? with
  | none => .refused .unknownSheet
  | some row =>
    .ofBody do
      let cells ← s.grid.cells.keys.mapM (CellView.ofSheet s)
      .ok (.sheet ⟨id, row.title, s.rows, s.columns, cells⟩)

/-- The view of changed cells. -/
def editedBody (s : Sheet) (changed : List Address) : Reply :=
  .ofBody do
    let cells ← changed.mapM (CellView.ofSheet s)
    .ok (.edited changed cells)

/-- The view of one cell. -/
def cellBody (s : Sheet) (a : Address) : Reply :=
  .ofBody do
    let v ← CellView.ofSheet s a
    .ok (.cell v)

/-- A value of a range as it is shown to a caller: an error as its text. -/
def rangeValue : CellValue → CellValue
  | .error code => .text code.token
  | v => CellView.plainValue v

/-! ## Requests -/

/-- A number that is asked for, or the one to take if there is none or it is zero. -/
def orDefault (asked : Option Int) (default : Int) : Int :=
  (asked.filter (· ≠ 0)).getD default

/-- The sheet without cells that a draft asks for. -/
def Draft.sheet (d : Draft) (setup : Setup) : Sheet :=
  .empty setup.language (orDefault d.rows setup.rows) (orDefault d.columns setup.columns)

/-- Creates a sheet, and shows it. -/
def create (st : Store) (d : Draft) : Store × Reply :=
  let s := d.sheet st.setup
  let u := s.setCells (d.cells.map fun (key, raw) => ⟨.named key, some raw⟩)
  match u.result with
  | .error f => (st, .ofFault f)
  | .ok _ =>
    match st.add d.title u.sheet with
    | .error f => (st, .ofFault f)
    | .ok stored => (stored, sheetBody stored st.nextId u.sheet)

/-- Removes a sheet. -/
def delete (st : Store) (id : Text) : Store × Reply :=
  (st.delete id, if st.rows.contains id then .ok .deleted else .refused .unknownSheet)

/-- Gives a sheet another title. -/
def retitle (st : Store) (id title : Text) : Store × Reply :=
  let title := title.trim
  if title.isEmpty then (st, .refused .emptyTitle)
  else
    match st.retitle id title with
    | .error f => (st, .fault f)
    | .ok stored =>
      (stored, if st.rows.contains id then .ok (.title id title) else .refused .unknownSheet)

/-- Writes texts into cells and saves the sheet. If a text is refused, the live sheet keeps those
before it, and nothing is saved. -/
def edit (st : Store) (id : Text) (edits : List CellEdit) : Store × Reply :=
  withSheet st id fun st s =>
    match edits.mapM fun e => do .ok (← address e.address, some e.value) with
    | .error reply => (st, reply)
    | .ok edits =>
      let u := s.applyEdits edits
      let st := st.keep id u.sheet
      match u.result with
      | .error f => (st, .ofFault f)
      | .ok changed => (st.save id, editedBody u.sheet changed)

/-- Computes a sheet anew; nothing is saved. -/
def recalculate (st : Store) (id : Text) : Store × Reply :=
  withSheet st id fun st s =>
    let u := s.recalculate
    let st := st.keep id u.sheet
    match u.result with
    | .error f => (st, .fault f)
    | .ok changed => (st, editedBody u.sheet changed)

/-- Sets the style of a cell and saves the sheet. -/
def setStyle (st : Store) (id t : Text) (style : Style) : Store × Reply :=
  withSheet st id fun st s =>
    withAddress st t fun a =>
      match s.setStyle (.placed a) style with
      | .error (.emptyCell a) => (st, .refused (.emptyCell a))
      | .error f => (st, .fault f)
      | .ok s => ((st.keep id s).save id, cellBody s a)

/-- Shows the values of a range; without a second corner, of one cell. -/
def showRange (st : Store) (id start : Text) (stop : Option Text) : Store × Reply :=
  withSheet st id fun st s =>
    withAddress st start fun a =>
      let stop := match stop with
        | some t => if t.isEmpty then start else t
        | none => start
      withAddress st stop fun b =>
        (st, .ok (.values ⟨a, b⟩ ((s.rangeValues ⟨a, b⟩).map rangeValue)))

/-- Answers a request. -/
def answer (st : Store) : Request → Store × Reply
  | .create body => withBody st body (create st)
  | .list => (st, .ok (.titles st.titles))
  | .get id => withSheet st id fun st s => (st, sheetBody st id s)
  | .delete id => delete st id
  | .title id body => withBody st body (retitle st id)
  | .cell id body => withBody st body fun e => edit st id [e]
  | .cells id body => withBody st body (edit st id)
  | .recalculate id => recalculate st id
  | .getCell id text =>
    withSheet st id fun st s => withAddress st text fun a => (st, cellBody s a)
  | .style id text body => withBody st body (setStyle st id text)
  | .range id start stop => showRange st id start stop
  | .formulas query => (st, .ok (.functions (st.setup.language.suggestions query)))

end Spreadsheet.Service
