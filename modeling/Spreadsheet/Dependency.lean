import Spreadsheet.Dependency.Closure
import Spreadsheet.Dependency.Components
import Spreadsheet.Dependency.Edges
import Spreadsheet.Fault
import Spreadsheet.Formula.References

/-!
# The dependency graph

The graph records which formula cells read which single cells and which ranges. A range is kept
whole; the readers of a cell are found among the ranges in use that cover it. `affected` closes a
set of cells under their readers, and `schedule` groups cells into components, a component of
several cells being a cycle, and puts each component after those that it reads.
-/

namespace Spreadsheet

open Std (ExtTreeSet)

/-- What the formula cells of a sheet read. -/
structure DependencyGraph where
  cells : Edges Address
  ranges : Edges CellRange

namespace DependencyGraph

/-- The graph without edges. -/
def empty : DependencyGraph :=
  ⟨.empty, .empty⟩

/-- Replaces what a cell reads, its single cells first. An edge that is missing in the other
direction ends the operation where it was found. -/
def setReferences (g : DependencyGraph) (cell : Address) (refs : References) :
    DependencyGraph × Option Fault :=
  match g.cells.set cell refs.cells with
  | (cells, some a) => (⟨cells, g.ranges⟩, some (.missingReverseEdge (.cell a) cell))
  | (cells, none) =>
    match g.ranges.set cell refs.ranges with
    | (ranges, some r) => (⟨cells, ranges⟩, some (.missingReverseEdge (.range r) cell))
    | (ranges, none) => (⟨cells, ranges⟩, none)

/-- Removes what a cell reads. -/
def remove (g : DependencyGraph) (cell : Address) : DependencyGraph × Option Fault :=
  g.setReferences cell .empty

/-- Whether a cell reads anything. -/
def hasReferences (g : DependencyGraph) (cell : Address) : Bool :=
  g.cells.forward.contains cell || g.ranges.forward.contains cell

/-- The formula cells that read a range covering a cell. -/
def rangeReaders (g : DependencyGraph) (cell : Address) : List Address :=
  g.ranges.backward.toList.flatMap fun (r, readers) =>
    if r.Covers cell then readers.toList else []

/-- The formula cells that read a cell, by itself or in a range. -/
def readers (g : DependencyGraph) (cell : Address) : ExtTreeSet Address :=
  (g.cells.readersOf cell).insertMany (g.rangeReaders cell)

/-- Whether a cell reads itself. -/
def isSelfReferencing (g : DependencyGraph) (cell : Address) : Bool :=
  (g.cells.readBy cell).contains cell ||
    (g.ranges.readBy cell).toList.any fun r => r.Covers cell

/-- The number of edges, which bounds the number of cells that read anything. -/
def edgeCount (g : DependencyGraph) : Nat :=
  g.cells.sources.length + g.ranges.sources.length

/-- The given cells and every cell that reads one of them, directly or through others. -/
def affected (g : DependencyGraph) (roots : List Address) : ExtTreeSet Address :=
  closure (fun a => (g.readers a).toList) g.edgeCount (ExtTreeSet.ofList roots)

/-- The readers of a cell among the given cells, in order. -/
def readersAmong (g : DependencyGraph) (cells : ExtTreeSet Address) (cell : Address) :
    List Address :=
  (g.readers cell).toList.filter fun a => cells.contains a

/-- The given cells in groups, each group after those that it reads. A group of several cells, or
of a single cell that reads itself, is a cycle. -/
def schedule (g : DependencyGraph) (cells : ExtTreeSet Address) : List (List Address) :=
  (stronglyConnected (g.readersAmong cells) cells.size cells.toList).reverse

end DependencyGraph

end Spreadsheet
