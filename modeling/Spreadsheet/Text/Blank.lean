import Spreadsheet.Text

/-!
# White space

`isBlank` decides which code points are white space. `trim` removes them from both ends of a text,
and a text of nothing else is blank.
-/

namespace Spreadsheet.Text

/-- White space: the tab and line controls, the four information separators, the space, and the
spaces and line ends beyond ASCII. The zero-width space is not among them. -/
def isBlank (c : CodePoint) : Bool :=
  let n := c.number
  (9 ≤ n && n ≤ 13) || (28 ≤ n && n ≤ 32) || n == 0x85 || n == 0xA0 || n == 0x1680 ||
    (0x2000 ≤ n && n ≤ 0x200A) || n == 0x2028 || n == 0x2029 || n == 0x202F || n == 0x205F ||
    n == 0x3000

/-- Removes white space from both ends of a text. -/
def trim (t : Text) : Text :=
  ((t.dropWhile isBlank).reverse.dropWhile isBlank).reverse

/-- A text with nothing but white space. -/
def IsBlank (t : Text) : Prop :=
  ∀ c ∈ t, isBlank c = true

instance (t : Text) : Decidable (IsBlank t) :=
  inferInstanceAs (Decidable (∀ c ∈ t, isBlank c = true))

end Spreadsheet.Text
