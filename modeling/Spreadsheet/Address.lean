import Spreadsheet.Address.Letters

/-!
# Addresses

A cell is addressed by its row and its column, both counted from zero. Addresses are ordered by
row and then by column. `Address.label` is the usual name, letters and then the row number; it
names the addresses whose coordinates are not negative. Formulas and edits reach only the
addresses that are `InBounds`.
-/

namespace Spreadsheet

/-- The place of a cell: row and column, counted from zero. -/
structure Address where
  row : Int
  column : Int
  deriving DecidableEq, Repr, Inhabited

namespace Address

instance : Ord Address :=
  ⟨compareLex (compareOn Address.row) (compareOn Address.column)⟩

instance : Std.TransOrd Address :=
  inferInstanceAs (Std.TransCmp (compareLex (compareOn Address.row) (compareOn Address.column)))

instance : Std.LawfulEqOrd Address where
  eq_of_compare {a b} h := by
    obtain ⟨hr, hc⟩ := compareLex_eq_eq.1 h
    have hr : a.row = b.row := Std.LawfulEqOrd.eq_of_compare hr
    have hc : a.column = b.column := Std.LawfulEqOrd.eq_of_compare hc
    cases a; cases b; simp_all

/-- The name of an address: its column letters and its row number, counted from one. -/
def label (a : Address) : Text :=
  Column.letters a.column.toNat ++ .ofChars (Nat.toDigits 10 (a.row + 1).toNat)

/-- Rows from here on are not addressable. -/
def maxRows : Int := 1048576

/-- Columns from here on are not addressable. -/
def maxColumns : Int := 16384

/-- The addresses that a formula can mention and an edit can write. -/
def InBounds (a : Address) : Prop :=
  0 ≤ a.row ∧ a.row < maxRows ∧ 0 ≤ a.column ∧ a.column < maxColumns

instance (a : Address) : Decidable a.InBounds :=
  inferInstanceAs (Decidable (_ ∧ _ ∧ _ ∧ _))

end Address

end Spreadsheet
