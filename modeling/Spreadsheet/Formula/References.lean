import Std.Data.ExtTreeSet
import Spreadsheet.Formula

/-!
# What a formula refers to

`mentions` lists the cells and ranges of a formula from left to right, as they are written, with
repetitions. It walks the tree with a stack of its own, so a deep tree takes no deep recursion;
`leaves` is the same list by recursion on the tree. `reads` is the set that the list makes, each
range with its upper left corner first: a range stays whole, however many cells it covers.
-/

namespace Spreadsheet

open Std (ExtTreeSet)

/-- A set of single cells and a set of ranges. -/
structure References where
  cells : ExtTreeSet Address
  ranges : ExtTreeSet CellRange

namespace References

/-- No references. -/
def empty : References :=
  ⟨∅, ∅⟩

instance : Inhabited References :=
  ⟨empty⟩

/-- Adds a reference, a range with its upper left corner first. -/
def insert (refs : References) : Reference → References
  | .cell a => { refs with cells := refs.cells.insert a }
  | .range r => { refs with ranges := refs.ranges.insert r.normalized }

/-- The set of the references of a list. -/
def ofList (l : List Reference) : References :=
  l.foldl insert empty

end References

namespace Formula

mutual

/-- The references at the leaves of a formula, from left to right. -/
def leaves : Formula → List Reference
  | ref a => [.cell a]
  | range r => [.range r]
  | call _ args => leavesAll args
  | unary _ operand => operand.leaves
  | binary _ left right => left.leaves ++ right.leaves
  | _ => []

/-- The references at the leaves of a list of formulas, from left to right. -/
def leavesAll : List Formula → List Reference
  | [] => []
  | f :: fs => f.leaves ++ leavesAll fs

end

theorem sizeAll_append (fs gs : List Formula) : sizeAll (fs ++ gs) = sizeAll fs + sizeAll gs := by
  induction fs with
  | nil => simp [sizeAll]
  | cons f fs ih => simp [sizeAll, ih]; omega

/-- Visits the trees on a stack, the top one first, and lists the references met. -/
def walk : List Formula → List Reference
  | [] => []
  | ref a :: stack => .cell a :: walk stack
  | range r :: stack => .range r :: walk stack
  | call _ args :: stack => walk (args ++ stack)
  | unary _ operand :: stack => walk (operand :: stack)
  | binary _ left right :: stack => walk (left :: right :: stack)
  | number _ :: stack => walk stack
  | text _ :: stack => walk stack
  | failed _ _ :: stack => walk stack
  | unknown :: stack => walk stack
termination_by stack => sizeAll stack
decreasing_by
  all_goals simp only [sizeAll, size, sizeAll_append]
  all_goals omega

/-- The cells and ranges that a formula mentions, from left to right, as they are written. -/
def mentions (f : Formula) : List Reference :=
  walk [f]

/-- The cells and ranges that a formula reads. -/
def reads (f : Formula) : References :=
  References.ofList f.mentions

end Formula

end Spreadsheet
