import Spreadsheet.Formula.Parser
import Spreadsheet.Formula.References
import Spreadsheet.Language
import Spreadsheet.Value.Coercion

/-!
# Cell content

The text that is written into a cell is a formula if it starts with `=`, and otherwise a number or
a text. A formula that cannot be read is kept as one that fails with the error that reading gave,
so a cell can hold any text; only a row number that is too long is refused.
-/

namespace Spreadsheet

/-- What the text of a cell stands for. -/
inductive Content where
  | literal (v : CellValue)
  | formula (f : Formula)
  deriving Inhabited

namespace Content

/-- The formula of a text that starts with the mark, or one that fails in its place. -/
def readFormula (lang : Language) (t : Text) : Except Fault Formula :=
  match Formula.parse lang.limit lang.contains t with
  | .ok f => .ok f
  | .error (.formula e) => .ok (.failed e.code e.message)
  | .error .nestingTooDeep => .ok (.failed .failure "Formula nested too deeply")
  | .error f => .error f

/-- The content that a text stands for. -/
def read (lang : Language) (raw : Text) : Except Fault Content :=
  if raw.trim.head? = some (.char '=') then
    match readFormula lang raw with
    | .ok f => .ok (.formula f)
    | .error f => .error f
  else
    match readNumber raw with
    | some x => .ok (.literal (.number x))
    | none => .ok (.literal (.text raw))

/-- The cells and ranges that a content reads. -/
def reads : Content → References
  | literal _ => .empty
  | formula f => f.reads

end Content

end Spreadsheet
