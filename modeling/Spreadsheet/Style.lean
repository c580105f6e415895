import Spreadsheet.Text

/-!
# Styles

A style is kept with a cell and never applied. A field that is not set is absent.
-/

namespace Spreadsheet

/-- Where a cell's text stands. -/
inductive Alignment where
  | left
  | center
  | right
  deriving DecidableEq, Repr

namespace Alignment

/-- The name of an alignment. -/
def name : Alignment → Text
  | left => "left"
  | center => "center"
  | right => "right"

/-- The alignment of a name. -/
def ofName? (t : Text) : Option Alignment :=
  [left, center, right].find? fun a => a.name = t

theorem ofName?_name (a : Alignment) : ofName? a.name = some a := by
  cases a <;> decide

end Alignment

/-- How a cell's number is meant to be shown. -/
inductive NumberStyle where
  | text
  | number
  | currency
  | percent
  | date
  deriving DecidableEq, Repr

namespace NumberStyle

/-- The name of a number style. -/
def name : NumberStyle → Text
  | text => "text"
  | number => "number"
  | currency => "currency"
  | percent => "percent"
  | date => "date"

/-- The number style of a name. -/
def ofName? (t : Text) : Option NumberStyle :=
  [text, number, currency, percent, date].find? fun f => f.name = t

theorem ofName?_name (f : NumberStyle) : ofName? f.name = some f := by
  cases f <;> decide

end NumberStyle

/-- The style of a cell. -/
structure Style where
  bold : Option Bool
  italic : Option Bool
  underline : Option Bool
  align : Option Alignment
  background : Option Text
  color : Option Text
  fontSize : Option Int
  format : Option NumberStyle
  deriving DecidableEq, Repr

namespace Style

/-- The style with no field set. -/
def plain : Style :=
  ⟨none, none, none, none, none, none, none, none⟩

instance : Inhabited Style :=
  ⟨plain⟩

end Style

end Spreadsheet
