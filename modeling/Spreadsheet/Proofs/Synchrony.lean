import Spreadsheet.Proofs.Atomicity
import Spreadsheet.Proofs.Sheet.Faults

/-!
# Cells and graph stay in step

In every sheet that operations lead to, also where some of them failed midway, the same addresses
have a cell and a content, the content is what the text of the cell stands for, and the four maps of
the graph hold exactly what the formulas of the sheet mention, in both directions and without empty
entries. So an operation never meets an edge that is missing in one direction, nor edges of a cell
that has no content.
-/

namespace Spreadsheet

/-! ## Reachable sheets -/

/-- The formula of a cell. -/
def Grid.formula? (g : Grid) (a : Address) : Option Formula :=
  match g.content? a with
  | some (.formula f) => some f
  | _ => none

theorem Grid.cover_reads_iff {g : Grid} {a b : Address} : (g.reads a).Cover b ↔
    ∃ f, g.formula? a = some f ∧
      (.cell b ∈ f.mentions ∨ ∃ r, .range r ∈ f.mentions ∧ r.Covers b) := by
  unfold reads formula?
  rcases g.content? a with _ | v | f
  · simp [References.not_cover_empty]
  · simp [Content.reads, References.not_cover_empty]
  · simp [Content.reads, Formula.cover_reads_iff, Formula.mentions_eq_leaves]

namespace Sheet

variable {lang : Language} {s : Sheet}

/-- The same addresses have a cell and a content. Every cell holds a text that is not blank, and its
content is what the text stands for. The graph records exactly what the formulas mention. -/
structure InStep (lang : Language) (s : Sheet) : Prop where
  contents : ∀ a, a ∈ s.grid.cells ↔ a ∈ s.grid.contents
  read_eq : ∀ a raw, s.grid.raw? a = some raw →
    ¬ raw.IsBlank ∧ ∃ c, Content.read lang raw = .ok c ∧ s.grid.content? a = some c
  cells : s.graph.cells.Record fun a => (s.grid.reads a).cells
  ranges : s.graph.ranges.Record fun a => (s.grid.reads a).ranges
  readers : ∀ a b, a ∈ s.graph.readers b ↔ ∃ f, s.grid.formula? a = some f ∧
    (.cell b ∈ f.mentions ∨ ∃ r, .range r ∈ f.mentions ∧ r.Covers b)

theorem InSync.inStep (h : s.InSync) : s.InStep s.language where
  contents := h.grid.paired
  read_eq a raw hraw := by
    obtain ⟨content, hcontent, hread⟩ := h.grid.exists_content? hraw
    exact ⟨h.grid.not_isBlank hraw, content, hread, hcontent⟩
  cells := by
    have hreads : s.graph.cells.readBy = fun a => (s.grid.reads a).cells :=
      funext fun a => congrArg References.cells (h.readBy_eq a)
    exact hreads ▸ h.valid.cells.record
  ranges := by
    have hreads : s.graph.ranges.readBy = fun a => (s.grid.reads a).ranges :=
      funext fun a => congrArg References.ranges (h.readBy_eq a)
    exact hreads ▸ h.valid.ranges.record
  readers a b := by
    rw [DependencyGraph.mem_readers_iff h.valid, h.reads_eq, Grid.Reads, Grid.cover_reads_iff]

/-- The cells and the graph of a reachable sheet are in step, and no operation on it finds them out
of step, whether it succeeds or fails. -/
theorem inStep_of_reachable (h : Reachable lang s) :
    s.InStep lang ∧ ∀ op,
      (∀ target reader, (s.perform op).2 ≠ some (.missingReverseEdge target reader)) ∧
        ∀ a, (s.perform op).2 ≠ some (.edgesWithoutContent a) := by
  obtain ⟨hsync, rfl⟩ := h.inSync
  refine ⟨hsync.inStep, fun op => ⟨fun target reader hf => ?_, fun a hf => ?_⟩⟩
  · cases operationFault_of_perform hsync hf
  · cases operationFault_of_perform hsync hf

/-! ## A sheet that a failed batch has left -/

/-- A batch whose second text cannot be read. -/
def halfReadable : List Edit :=
  [⟨.placed ⟨0, 0⟩, some "=A1"⟩, ⟨.placed ⟨0, 1⟩, some tooLong⟩]

/-- The sheet that such a batch leaves. -/
def halfWritten : Sheet :=
  ((empty (.standard .usual) 1 1).setCells halfReadable).sheet

theorem setCells_halfReadable :
    (empty (.standard .usual) 1 1).setCells halfReadable = ⟨halfWritten, .error .numeralTooLong⟩ ∧
      halfWritten.grid.raw? ⟨0, 0⟩ = some ("=A1" : Text) := by
  have hlong : ¬ (Language.standard .usual).Accepts (some tooLong) :=
    not_accepts_ones (.standard .usual) (Nat.lt_succ_self Decimal.maxDigits)
  rw [halfWritten, halfReadable]
  -- from here on it only counts that the text cannot be read
  generalize tooLong = raw at hlong ⊢
  have hheld : heldText (some "=A1") = some ("=A1" : Text) := by decide
  have hself : (Language.standard .usual).Accepts (some "=A1") := accepts_of_read read_refFirst
  have hresolve : resolveAll [⟨.placed ⟨0, 0⟩, some "=A1"⟩, ⟨.placed ⟨0, 1⟩, some raw⟩] =
      .ok [(⟨0, 0⟩, some "=A1"), (⟨0, 1⟩, some raw)] := rfl
  have hreached : Reachable (.standard .usual) (empty (.standard .usual) 1 1) := .empty 1 1
  rw [setCells_eq_written hreached hresolve fun hall =>
    hlong (hall _ (List.mem_cons_of_mem _ List.mem_cons_self)),
    Language.readable_pair hself hlong]
  refine ⟨rfl, ?_⟩
  have hall : ∀ edit ∈ [((⟨0, 0⟩ : Address), some ("=A1" : Text))],
      (Language.standard .usual).Accepts edit.2 := List.forall_mem_singleton.2 hself
  rw [raw?_written (inSync_empty (.standard .usual) 1 1) hall]
  simp [overwrite, hheld]

theorem reachable_halfWritten : Reachable (.standard .usual) halfWritten := by
  have hempty : Reachable (.standard .usual) (empty (.standard .usual) 1 1) := .empty 1 1
  have hstep := hempty.step (.setCells halfReadable)
  rw [perform, Update.ended_fst] at hstep
  rw [halfWritten]
  exact hstep

/-- The formula before the text that cannot be read stands in the graph. -/
theorem mem_readers_halfWritten : ⟨0, 0⟩ ∈ halfWritten.graph.readers ⟨0, 0⟩ := by
  obtain ⟨hstep, -⟩ := inStep_of_reachable reachable_halfWritten
  obtain ⟨-, c, hread, hcontent⟩ := hstep.read_eq _ _ setCells_halfReadable.2
  rw [read_refFirst, Except.ok.injEq] at hread
  subst hread
  refine (hstep.readers _ _).2 ⟨.ref ⟨0, 0⟩, by rw [Grid.formula?, hcontent], .inl ?_⟩
  simp [Formula.mentions_eq_leaves, Formula.leaves]

end Sheet

end Spreadsheet
