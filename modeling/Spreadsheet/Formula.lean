import Spreadsheet.CellRange
import Spreadsheet.Value

/-!
# Formulas

A formula is a tree. Function names and operator symbols are kept as they were read, and what they
mean is settled when the tree is evaluated. Text that could not be read as a formula is kept as a
tree that only fails. Formulas that are nested deeper than a `NestingLimit` are neither read nor
evaluated.
-/

namespace Spreadsheet

/-- A formula. -/
inductive Formula where
  | number (x : Float)
  | text (t : Text)
  | ref (a : Address)
  | range (r : CellRange)
  | call (name : Text) (args : List Formula)
  | unary (symbol : Text) (operand : Formula)
  | binary (symbol : Text) (left right : Formula)
  /-- Text that is not a formula, with the error that reading it gave. -/
  | failed (code : ErrorCode) (message : Text)
  /-- A node that no rule evaluates. -/
  | unknown
  deriving Inhabited

namespace Formula

mutual

/-- The number of nodes of a formula. -/
def size : Formula → Nat
  | call _ args => sizeAll args + 1
  | unary _ operand => operand.size + 1
  | binary _ left right => left.size + right.size + 1
  | _ => 1

/-- The number of nodes of a list of formulas. -/
def sizeAll : List Formula → Nat
  | [] => 0
  | f :: fs => f.size + sizeAll fs

end

theorem size_pos (f : Formula) : 0 < f.size := by
  cases f <;> simp [size]

end Formula

/-- How deep signs, parentheses and calls may nest, in a text and in a tree. The limit is set by the
stack of the host; a signed operand is always within it. -/
structure NestingLimit where
  depth : Nat
  three_le_depth : 3 ≤ depth

namespace NestingLimit

/-- A limit that is high enough for formulas written by hand. -/
def usual : NestingLimit :=
  ⟨480, by decide⟩

end NestingLimit

end Spreadsheet
