import Spreadsheet.Text

/-!
# Column letters

Columns are named `A`, `B`, ..., `Z`, `AA`, `AB`, ...: base 26 without a zero. `letters` names a
column and `index` reads letters back. `index` is defined for any text: each code point
counts as its distance from the one before `A`.
-/

namespace Spreadsheet.Column

/-- Whether a code point is one of the letters that name columns. -/
def isLetter (c : CodePoint) : Bool :=
  c.satisfies fun c => 'A' ≤ c && c ≤ 'Z'

/-- The letter with the given place in the alphabet, counted from zero. -/
def letter (n : Nat) : CodePoint :=
  .char (Char.ofNat (65 + n))

/-- The name of a column. -/
def letters (n : Nat) : Text :=
  if n < 26 then [letter n] else letters (n / 26 - 1) ++ [letter (n % 26)]
termination_by n
decreasing_by omega

/-- The column that upper-case letters name. -/
def index (t : Text) : Int :=
  t.foldl (fun n c => 26 * n + ((c.number : Int) - 64)) 0 - 1

end Spreadsheet.Column
