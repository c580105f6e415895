import Std.Data.ExtTreeMap
import Std.Data.ExtTreeSet
import Spreadsheet.CellRange

/-!
# Edges in both directions

`Edges κ` relates cells to the things of type `κ` that they read. It is kept in both directions,
and neither direction has empty entries. `Edges.set` replaces what one cell reads and touches only
the edges that differ.
-/

namespace Spreadsheet

open Std (ExtTreeMap ExtTreeSet)

/-- Edges from cells to the things that they read, in both directions. -/
structure Edges (κ : Type) [Ord κ] [Std.TransOrd κ] where
  forward : ExtTreeMap Address (ExtTreeSet κ)
  backward : ExtTreeMap κ (ExtTreeSet Address)

namespace Edges

variable {κ : Type} [Ord κ] [Std.TransOrd κ]

/-- No edges. -/
def empty : Edges κ :=
  ⟨∅, ∅⟩

/-- The things that a cell reads. -/
def readBy (e : Edges κ) (cell : Address) : ExtTreeSet κ :=
  e.forward.getD cell ∅

/-- The cells that read a thing. -/
def readersOf (e : Edges κ) (k : κ) : ExtTreeSet Address :=
  e.backward.getD k ∅

/-- The cells that read anything, each of them as often as it reads something. -/
def sources (e : Edges κ) : List Address :=
  e.backward.toList.flatMap fun (_, readers) => readers.toList

/-- Takes a cell out of the readers of the given things, one after the other. It stops at a thing
that has no readers, and gives that thing. -/
def unlink (cell : Address) (backward : ExtTreeMap κ (ExtTreeSet Address)) :
    List κ → ExtTreeMap κ (ExtTreeSet Address) × Option κ
  | [] => (backward, none)
  | k :: ks =>
    match backward[k]? with
    | none => (backward, some k)
    | some readers =>
      let rest := readers.erase cell
      unlink cell (if rest.isEmpty then backward.erase k else backward.insert k rest) ks

/-- Adds a cell to the readers of the given things. -/
def link (cell : Address) (backward : ExtTreeMap κ (ExtTreeSet Address)) (ks : List κ) :
    ExtTreeMap κ (ExtTreeSet Address) :=
  ks.foldl (fun b k => b.insert k ((b.getD k ∅).insert cell)) backward

/-- Replaces what a cell reads. If an edge to be removed is missing in the other direction, the
edges before it are gone already, the rest stays, and the thing it led to is given. -/
def set (e : Edges κ) (cell : Address) (new : ExtTreeSet κ) : Edges κ × Option κ :=
  let old := e.readBy cell
  match unlink cell e.backward (old.toList.filter fun k => !new.contains k) with
  | (backward, some k) => (⟨e.forward, backward⟩, some k)
  | (backward, none) =>
    let forward := if new.isEmpty then e.forward.erase cell else e.forward.insert cell new
    (⟨forward, link cell backward (new.toList.filter fun k => !old.contains k)⟩, none)

end Edges

end Spreadsheet
