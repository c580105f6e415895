import Std.Data.ExtTreeSet

/-!
# Closure under a successor function

`closureFrom` collects everything that can be reached from a set. Nodes that have been seen and
whose successors have not yet been visited wait in a queue.
-/

namespace Spreadsheet

open Std (ExtTreeSet)

variable {α : Type} [Ord α] [Std.TransOrd α]

/-- Visits at most `fuel` nodes of a queue. The successors of a visited node that are new are seen
from then on, and wait in the queue themselves. -/
def closureFrom (next : α → List α) :
    (fuel : Nat) → (queue : List α) → (seen : ExtTreeSet α) → ExtTreeSet α
  | fuel + 1, x :: queue, seen =>
    let fresh := (next x).filter fun y => !seen.contains y
    closureFrom next fuel (fresh ++ queue) (seen.insertMany fresh)
  | _, _, seen => seen

/-- A set with everything that can be reached from it, provided that no more than `bound` nodes
are reached besides. -/
def closure (next : α → List α) (bound : Nat) (roots : ExtTreeSet α) : ExtTreeSet α :=
  closureFrom next (roots.size + bound) roots.toList roots

end Spreadsheet
