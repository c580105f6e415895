import Std.Data.ExtTreeMap

/-!
# Strongly connected components

One depth-first search finds the components of a graph. A node is numbered when the search enters
it and lies on a stack until its component is complete. `explore` returns the least number of an
active node that it has met; a node that meets none below its own number is the first of its
component, and everything above it on the stack belongs to it.
-/

namespace Spreadsheet

open Std (ExtTreeMap)

/-- What the search knows about a node that it has entered. -/
inductive Mark where
  /-- The node lies on the stack; it was entered with this number. -/
  | active (number : Nat)
  /-- The component of the node is complete. -/
  | done
  deriving DecidableEq, Repr

/-- The state of the search: the next number, the marks, the stack with the latest node first, and
the complete components with the latest first. -/
structure Search (α : Type) [Ord α] [Std.TransOrd α] where
  next : Nat
  marks : ExtTreeMap α Mark
  stack : List α
  components : List (List α)

namespace Search

variable {α : Type} [Ord α] [Std.TransOrd α] [DecidableEq α]

/-- The search before it starts. -/
def start : Search α :=
  ⟨0, ∅, [], []⟩

/-- Enters a node. -/
def enter (s : Search α) (v : α) : Search α :=
  ⟨s.next + 1, s.marks.insert v (.active s.next), v :: s.stack, s.components⟩

/-- Takes the component of a node off the stack, from the latest node to this one. -/
def close (s : Search α) (v : α) : Search α :=
  let component := s.stack.takeWhile (· != v) ++ [v]
  ⟨s.next, component.foldl (fun m w => m.insert w .done) s.marks,
    (s.stack.dropWhile (· != v)).drop 1, component :: s.components⟩

/-- Enters a node, explores its successors, and closes its component if it is the first node of
it. The nodes entered lie nested at most `fuel` deep. With the state comes the least number of an
active node met. -/
def explore (successors : α → List α) : (fuel : Nat) → α → Search α → Search α × Nat
  | 0, _, s => (s, s.next)
  | fuel + 1, v, s =>
    let number := s.next
    let (t, low) := (successors v).foldl
      (fun (t, low) w =>
        match t.marks[w]? with
        | none =>
          let (t, below) := explore successors fuel w t
          (t, min low below)
        | some (.active n) => (t, min low n)
        | some .done => (t, low))
      (s.enter v, number)
    if low = number then (t.close v, low) else (t, low)

/-- Explores the nodes of a list that have not been entered. -/
def exploreAll (successors : α → List α) (fuel : Nat) (roots : List α) (s : Search α) :
    Search α :=
  roots.foldl
    (fun s v => if s.marks.contains v then s else (explore successors fuel v s).1) s

end Search

/-- The strongly connected components of what can be reached from a list of nodes, each after the
components that it leads to, provided that no more than `bound` nodes can be reached. -/
def stronglyConnected {α : Type} [Ord α] [Std.TransOrd α] [DecidableEq α]
    (successors : α → List α) (bound : Nat) (roots : List α) : List (List α) :=
  (Search.exploreAll successors bound roots .start).components.reverse

end Spreadsheet
