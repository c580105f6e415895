import Mathlib.Logic.Function.Basic
import Spreadsheet.Proofs.Dependency.Graph

/-!
# A graph holds what it was last told

A dependency graph is told, cell by cell, what a cell reads from now on. However often the cells of
a history are told anew, and however the corners of their ranges are written, no change fails, and
the four maps of the graph hold exactly what was told last, in both directions and without empty
entries (`records_of_history`).
-/

namespace Spreadsheet

namespace DependencyGraph

/-- What a graph can be told: that a cell reads these cells and ranges from now on, or nothing. -/
inductive Change where
  | set (cell : Address) (refs : List Reference)
  | remove (cell : Address)

namespace Change

/-- The cell of a change. -/
def cell : Change → Address
  | set cell _ => cell
  | remove cell => cell

/-- What the cell of a change reads from then on. -/
def refs : Change → List Reference
  | set _ refs => refs
  | remove _ => []

/-- What each cell was told last to read, where `said` is what it was told before. -/
def lastSaid (said : Address → List Reference) (changes : List Change) :
    Address → List Reference :=
  changes.foldl (fun said change => Function.update said change.cell change.refs) said

end Change

/-- Makes a change. -/
def apply (g : DependencyGraph) : Change → DependencyGraph × Option Fault
  | .set cell refs => g.setReferences cell (.ofList refs)
  | .remove cell => g.remove cell

/-- Makes changes one after the other, up to one that fails. -/
def applyAll (g : DependencyGraph) : List Change → DependencyGraph × Option Fault
  | [] => (g, none)
  | change :: changes =>
    match g.apply change with
    | (g', none) => g'.applyAll changes
    | (g', some f) => (g', some f)

variable {g : DependencyGraph} {said : Address → List Reference}

/-- A graph without gaps that holds what its cells were told. -/
structure Holds (g : DependencyGraph) (said : Address → List Reference) : Prop where
  valid : g.Valid
  readBy_eq : ∀ a, g.readBy a = .ofList (said a)

theorem holds_empty : empty.Holds fun _ => [] :=
  ⟨valid_empty, readBy_empty⟩

/-- A change can always be made. -/
theorem Holds.apply_eq (h : g.Holds said) (change : Change) : ∃ g',
    g.apply change = (g', none) ∧ g'.Holds (Function.update said change.cell change.refs) := by
  have hset : g.apply change = g.setReferences change.cell (.ofList change.refs) := by
    cases change <;> rfl
  obtain ⟨g', heq, hvalid, hread⟩ := setReferences_eq h.valid change.cell (.ofList change.refs)
  refine ⟨g', hset.trans heq, hvalid, fun a => ?_⟩
  rw [hread, Function.update_apply]
  split
  · rfl
  · exact h.readBy_eq a

theorem Holds.applyAll_eq (changes : List Change) : ∀ {g said}, Holds g said →
    ∃ g', g.applyAll changes = (g', none) ∧ g'.Holds (Change.lastSaid said changes) := by
  induction changes with
  | nil => exact fun h => ⟨_, rfl, h⟩
  | cons change changes ih =>
    intro g said h
    obtain ⟨g', heq, h'⟩ := h.apply_eq change
    obtain ⟨g'', heq', h''⟩ := ih h'
    exact ⟨g'', by simp only [applyAll, heq, heq'], h''⟩

theorem Holds.reads_iff (h : g.Holds said) {a b : Address} :
    g.Reads a b ↔ .cell b ∈ said a ∨ ∃ r, .range r ∈ said a ∧ r.Covers b := by
  rw [Reads, h.readBy_eq, References.cover_ofList_iff]

/-- No change of a history fails, and then the maps of the graph hold exactly what each cell was
told last, and the readers of a cell are the cells that were told last to read it. -/
theorem records_of_history (changes : List Change) :
    ∃ g, empty.applyAll changes = (g, none) ∧
      g.cells.Record
        (fun a => (References.ofList (Change.lastSaid (fun _ => []) changes a)).cells) ∧
      g.ranges.Record
        (fun a => (References.ofList (Change.lastSaid (fun _ => []) changes a)).ranges) ∧
      (∀ a b, a ∈ g.readers b ↔ .cell b ∈ Change.lastSaid (fun _ => []) changes a ∨
        ∃ r, .range r ∈ Change.lastSaid (fun _ => []) changes a ∧ r.Covers b) ∧
      ∀ a, g.isSelfReferencing a = true ↔ a ∈ g.readers a := by
  obtain ⟨g, heq, h⟩ := holds_empty.applyAll_eq changes
  refine ⟨g, heq, ?_, ?_, fun a b => ?_, fun a => ?_⟩
  · have hcells := funext fun a => congrArg References.cells (h.readBy_eq a)
    exact hcells ▸ h.valid.cells.record
  · have hranges := funext fun a => congrArg References.ranges (h.readBy_eq a)
    exact hranges ▸ h.valid.ranges.record
  · rw [mem_readers_iff h.valid, h.reads_iff]
  · rw [mem_readers_iff h.valid, isSelfReferencing_iff]

end DependencyGraph

end Spreadsheet
