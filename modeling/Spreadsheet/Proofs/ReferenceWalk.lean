import Mathlib.Logic.Function.Iterate
import Spreadsheet.Proofs.Formula.Reads

/-!
# The walk over the references of a formula

A turn of the walk takes a tree off the stack, lists what its root refers to, and puts its parts in
its place. No turn changes the references that are listed or still on the stack
(`Walk.outlook_turn`), and every turn uses up one node (`Walk.sizeAll_turn`). So the walk ends after
as many turns as the formula has nodes, and has then listed its leaves from left to right
(`walk_spec`).
-/

namespace Spreadsheet

namespace Formula

/-! ## The root of a tree and its parts -/

/-- The trees right below the root, from left to right. -/
def parts : Formula → List Formula
  | call _ args => args
  | unary _ operand => [operand]
  | binary _ left right => [left, right]
  | _ => []

/-- What the root by itself refers to. -/
def rootReferences : Formula → List Reference
  | ref a => [.cell a]
  | range r => [.range r]
  | _ => []

theorem size_eq_parts (f : Formula) : f.size = sizeAll f.parts + 1 := by
  cases f <;> simp [size, sizeAll, parts]

theorem leaves_eq_parts (f : Formula) : f.leaves = f.rootReferences ++ leavesAll f.parts := by
  cases f <;> simp [leaves, leavesAll, parts, rootReferences]

theorem sizeAll_eq_zero_iff {fs : List Formula} : sizeAll fs = 0 ↔ fs = [] := by
  cases fs with
  | nil => simp [sizeAll]
  | cons f fs =>
    have hpos := f.size_pos
    simp only [sizeAll, reduceCtorEq, iff_false]
    omega

/-! ## Turns -/

/-- A walk under way: the trees that are still to be visited, the next one first, and the references
listed so far. -/
structure Walk where
  stack : List Formula
  listed : List Reference

namespace Walk

/-- A walk that has only begun. -/
def start (f : Formula) : Walk :=
  ⟨[f], []⟩

/-- Visits the tree on top of the stack. -/
def turn : Walk → Walk
  | ⟨[], listed⟩ => ⟨[], listed⟩
  | ⟨f :: stack, listed⟩ => ⟨f.parts ++ stack, listed ++ f.rootReferences⟩

/-- The references that a walk will have listed when all trees of its stack have been visited. -/
def outlook (w : Walk) : List Reference :=
  w.listed ++ leavesAll w.stack

theorem outlook_turn (w : Walk) : w.turn.outlook = w.outlook := by
  obtain ⟨_ | ⟨f, stack⟩, listed⟩ := w
  · rfl
  · simp only [turn, outlook, leavesAll_append, leavesAll, f.leaves_eq_parts, List.append_assoc]

theorem sizeAll_turn (w : Walk) : sizeAll w.turn.stack = sizeAll w.stack - 1 := by
  obtain ⟨_ | ⟨f, stack⟩, listed⟩ := w
  · rfl
  · have hsize := f.size_eq_parts
    simp only [turn, sizeAll_append, sizeAll]
    omega

variable (f : Formula) (n : Nat)

theorem outlook_iterate : (turn^[n] (start f)).outlook = f.leaves := by
  induction n with
  | zero => simp [start, outlook, leavesAll]
  | succ n ih => rw [Function.iterate_succ_apply', outlook_turn, ih]

theorem sizeAll_iterate : sizeAll (turn^[n] (start f)).stack = f.size - n := by
  induction n with
  | zero => simp [start, sizeAll]
  | succ n ih => rw [Function.iterate_succ_apply', sizeAll_turn, ih, Nat.sub_sub]

theorem stack_iterate_eq_nil_iff : (turn^[n] (start f)).stack = [] ↔ f.size ≤ n := by
  rw [← sizeAll_eq_zero_iff, sizeAll_iterate, Nat.sub_eq_zero_iff_le]

theorem iterate_size : turn^[f.size] (start f) = ⟨[], f.leaves⟩ := by
  have hstack := (stack_iterate_eq_nil_iff f f.size).2 (Nat.le_refl _)
  have houtlook := outlook_iterate f f.size
  generalize turn^[f.size] (start f) = w at hstack houtlook
  obtain ⟨stack, listed⟩ := w
  obtain rfl : stack = [] := hstack
  rw [← houtlook, outlook, leavesAll, List.append_nil]

end Walk

/-- The walk lists the leaves of a formula from left to right, with repetitions, and is over after
as many turns as the formula has nodes, not earlier. What a formula reads is the set of the cells
among its leaves and of the ranges among them, these with the upper left corner first. -/
theorem walk_spec (f : Formula) :
    f.mentions = f.leaves ∧
      (∀ n, (Walk.turn^[n] (.start f)).stack = [] ↔ f.size ≤ n) ∧
      Walk.turn^[f.size] (.start f) = ⟨[], f.mentions⟩ ∧
      (∀ a, a ∈ f.reads.cells ↔ .cell a ∈ f.leaves) ∧
      ∀ r, r ∈ f.reads.ranges ↔ ∃ r', .range r' ∈ f.leaves ∧ r'.normalized = r := by
  have hmentions := f.mentions_eq_leaves
  refine ⟨hmentions, Walk.stack_iterate_eq_nil_iff f, ?_, fun a => ?_, fun r => ?_⟩
  · rw [hmentions, Walk.iterate_size]
  · rw [reads, hmentions, References.mem_cells_ofList]
  · rw [reads, hmentions, References.mem_ranges_ofList]

end Formula

end Spreadsheet
