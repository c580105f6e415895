import Spreadsheet.Library

/-!
# Languages

A language is what the formulas of a sheet are read and evaluated with: the functions that they can
call, and how deep they may nest.
-/

namespace Spreadsheet

/-- The functions that formulas can call, and how deep formulas may nest. -/
structure Language extends Library where
  limit : NestingLimit

end Spreadsheet
