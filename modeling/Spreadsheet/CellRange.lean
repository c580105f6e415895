import Spreadsheet.Address

/-!
# Ranges

A range is given by two corners, in any orientation. `normalized` turns it to its upper left and
lower right corners, `cells` walks it row by row, `size` is its area, and `Covers` says which
addresses lie in it.
-/

namespace Spreadsheet

/-- A rectangle of cells, given by two opposite corners. -/
structure CellRange where
  start : Address
  stop : Address
  deriving DecidableEq, Repr, Inhabited

namespace CellRange

instance : Ord CellRange :=
  ⟨compareLex (compareOn CellRange.start) (compareOn CellRange.stop)⟩

instance : Std.TransOrd CellRange :=
  inferInstanceAs
    (Std.TransCmp (compareLex (compareOn CellRange.start) (compareOn CellRange.stop)))

instance : Std.LawfulEqOrd CellRange where
  eq_of_compare {a b} h := by
    obtain ⟨hs, ht⟩ := compareLex_eq_eq.1 h
    have hs : a.start = b.start := Std.LawfulEqOrd.eq_of_compare hs
    have ht : a.stop = b.stop := Std.LawfulEqOrd.eq_of_compare ht
    cases a; cases b; simp_all

/-- The range of one cell. -/
def single (a : Address) : CellRange :=
  ⟨a, a⟩

/-- The same cells, with the upper left corner first. -/
def normalized (r : CellRange) : CellRange :=
  ⟨⟨min r.start.row r.stop.row, min r.start.column r.stop.column⟩,
    ⟨max r.start.row r.stop.row, max r.start.column r.stop.column⟩⟩

/-- How many rows a range spans. -/
def height (r : CellRange) : Int :=
  r.normalized.stop.row - r.normalized.start.row + 1

/-- How many columns a range spans. -/
def width (r : CellRange) : Int :=
  r.normalized.stop.column - r.normalized.start.column + 1

/-- The number of addresses in a range. -/
def size (r : CellRange) : Int :=
  r.height * r.width

/-- The addresses of a range, rows outer and columns inner. -/
def cells (r : CellRange) : List Address :=
  (List.range r.height.toNat).flatMap fun (i : Nat) =>
    (List.range r.width.toNat).map fun (j : Nat) =>
      ⟨r.normalized.start.row + i, r.normalized.start.column + j⟩

/-- An address covered by a range. -/
def Covers (r : CellRange) (a : Address) : Prop :=
  r.normalized.start.row ≤ a.row ∧ a.row ≤ r.normalized.stop.row ∧
    r.normalized.start.column ≤ a.column ∧ a.column ≤ r.normalized.stop.column

instance (r : CellRange) (a : Address) : Decidable (r.Covers a) :=
  inferInstanceAs (Decidable (_ ∧ _ ∧ _ ∧ _))

/-- The name of a range: its corners as they are given, with a colon between them. -/
def label (r : CellRange) : Text :=
  r.start.label ++ ":" ++ r.stop.label

end CellRange

/-- What a formula refers to: a single cell or a range. -/
inductive Reference where
  | cell (address : Address)
  | range (cells : CellRange)
  deriving DecidableEq, Repr, Inhabited

namespace Reference

/-- The name of what is referred to. -/
def label : Reference → Text
  | cell a => a.label
  | range r => r.label

end Reference

end Spreadsheet
