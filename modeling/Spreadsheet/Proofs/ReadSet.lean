import Spreadsheet.Library.Standard
import Spreadsheet.Proofs.Evaluation
import Spreadsheet.Proofs.Library.Calls

/-!
# What evaluation can see

The references that are listed before a formula is evaluated are all that its evaluation reads, if
the lazy functions that it calls evaluate only parts of their arguments: two readers that agree on
them cannot be told apart by it, and neither can two grids that agree on the addresses covered by
them (`indistinguishable_of_mentions`). A lazy function that evaluates a formula of its own making
reads what no argument mentions, and a value of another kind that compares as equal does not do for
the same value (`not_indistinguishable_peek`).
-/

namespace Spreadsheet

/-- A formula cannot tell two readers apart: every evaluation of it has the same outcome, value or
fault. -/
structure CellReader.Indistinguishable (lang : Language) (f : Formula)
    (reader reader' : CellReader) : Prop where
  within : ∀ depth,
    evalWithin lang.toLibrary reader depth f = evalWithin lang.toLibrary reader' depth f
  value : eval lang reader f = eval lang reader' f
  held : evaluate lang reader f = evaluate lang reader' f

theorem CellReader.indistinguishable_of_leaves {lang : Language} {f : Formula}
    {reader reader' : CellReader} (hkeeps : f.KeepsToArguments lang.toLibrary)
    (h : ∀ x ∈ f.leaves, reader.Agree reader' x) :
    CellReader.Indistinguishable lang f reader reader' where
  within depth := evalWithin_congr depth hkeeps h
  value := evalWithin_congr lang.limit.depth hkeeps h
  held := evaluate_congr hkeeps h

/-- Evaluation sees nothing but the references that a formula mentions, and on a grid nothing but
the addresses that they cover. -/
theorem indistinguishable_of_mentions (lang : Language) (f : Formula)
    (hkeeps : f.KeepsToArguments lang.toLibrary) :
    (∀ reader reader' : CellReader, (∀ x ∈ f.mentions, reader.Agree reader' x) →
      CellReader.Indistinguishable lang f reader reader') ∧
    ∀ g g' : Grid,
      (∀ a, f.reads.Cover a → (a ∈ g.cells ↔ a ∈ g'.cells) ∧ g.value a = g'.value a) →
        CellReader.Indistinguishable lang f g.reader g'.reader := by
  constructor
  · intro reader reader' hagree
    -- the walk with a stack and the recursion of the evaluator meet in the leaves
    refine CellReader.indistinguishable_of_leaves hkeeps fun x hx => hagree x ?_
    rw [Formula.mentions_eq_leaves]
    exact hx
  · intro g g' hagree
    exact CellReader.indistinguishable_of_leaves hkeeps fun x hx =>
      Grid.agree_reader (fun a ha => (hagree a ha).1) (fun a ha => (hagree a ha).2) hx

/-! ## A cell below a range -/

/-- The sum of two cells. -/
def pairSum : Formula :=
  .call "SUM" [.range ⟨⟨0, 0⟩, ⟨1, 0⟩⟩]

/-- A one in the first of the two cells. -/
def oneGrid : Grid :=
  (Grid.empty.put ⟨0, 0⟩ "1" (.literal (.number 1))).setValue ⟨0, 0⟩ (.number 1)

/-- The same with a text below the two cells, so that reading the range walks the range and not the
populated cells. -/
def textBelow : Grid :=
  (oneGrid.put ⟨2, 0⟩ "x" (.literal (.text "x"))).setValue ⟨2, 0⟩ (.text "x")

theorem mem_leaves_pairSum {x : Reference} :
    x ∈ pairSum.leaves ↔ x = .range ⟨⟨0, 0⟩, ⟨1, 0⟩⟩ :=
  List.mem_singleton

theorem agree_textBelow {a : Address} (h : pairSum.reads.Cover a) :
    (a ∈ oneGrid.cells ↔ a ∈ textBelow.cells) ∧ oneGrid.value a = textBelow.value a := by
  have hne : ⟨2, 0⟩ ≠ a := by
    rintro rfl
    simp only [Formula.cover_reads_iff, mem_leaves_pairSum] at h
    obtain h | ⟨r, hr, hcovers⟩ := h
    · cases h
    · cases hr
      exact absurd hcovers (by decide)
  simp [textBelow, Grid.put, Grid.setValue, Grid.change, Grid.value,
    Std.ExtTreeMap.getElem?_insert, Std.ExtTreeMap.mem_insert, hne]

theorem indistinguishable_textBelow :
    pairSum.KeepsToArguments Library.standard ∧
      oneGrid.value ⟨2, 0⟩ ≠ textBelow.value ⟨2, 0⟩ ∧
      (∀ x ∈ pairSum.mentions, (CellReader.dense oneGrid.value).Agree (.dense textBelow.value) x) ∧
      CellReader.Indistinguishable (.standard .usual) pairSum (.dense oneGrid.value)
        (.dense textBelow.value) ∧
      (∀ a, pairSum.reads.Cover a →
        (a ∈ oneGrid.cells ↔ a ∈ textBelow.cells) ∧ oneGrid.value a = textBelow.value a) ∧
      CellReader.Indistinguishable (.standard .usual) pairSum oneGrid.reader textBelow.reader := by
  have hkeeps : pairSum.KeepsToArguments Library.standard :=
    Library.isStandard_standard.keepsToArguments.formula pairSum
  obtain ⟨hreaders, hgrids⟩ := indistinguishable_of_mentions (.standard .usual) pairSum hkeeps
  have hcells : ∀ x ∈ pairSum.mentions,
      (CellReader.dense oneGrid.value).Agree (.dense textBelow.value) x := by
    intro x hx
    rw [Formula.mentions_eq_leaves] at hx
    cases mem_leaves_pairSum.1 hx
    refine ⟨rfl, fun a ha => (agree_textBelow (Formula.cover_reads_iff.2 (.inr ⟨_, hx, ?_⟩))).2⟩
    exact CellRange.mem_cells_iff.1 ha
  exact ⟨hkeeps, by simp [oneGrid, textBelow, Grid.value, Grid.put, Grid.setValue, Grid.change,
      Grid.empty], hcells, hreaders _ _ hcells,
    fun _ => agree_textBelow, hgrids _ _ fun _ => agree_textBelow⟩

/-! ## Where more is seen

A lazy function is given a way to evaluate formulas, and nothing keeps it to its arguments. -/

/-- A function without arguments whose result is the value of the first cell. -/
def peek : Entry :=
  ⟨"PEEK", .lazy fun _ evaluate => evaluate (.ref ⟨0, 0⟩), 0, some 0, "The first cell.", "=PEEK()"⟩

/-- A call of that function. -/
def peekCall : Formula :=
  .call "PEEK" []

/-- The first cell with one added. -/
def firstPlusOne : Formula :=
  .binary "+" (.ref ⟨0, 0⟩) (.number 1)

/-- A call that mentions nothing sees the first cell of a grid, and a formula tells two zeros apart
that are equal for the language. -/
theorem not_indistinguishable_peek :
    (peekCall.mentions = [] ∧ (∀ a, ¬ peekCall.reads.Cover a) ∧
      ¬ CellReader.Indistinguishable ⟨Library.empty.register peek [], .usual⟩ peekCall
        Grid.empty.reader oneGrid.reader) ∧
    (firstPlusOne.mentions = [.cell ⟨0, 0⟩] ∧
      CellValue.compareBy "=" (.integer 0) (.number 0) = .ok 1 ∧
      ¬ CellReader.Indistinguishable (.standard .usual) firstPlusOne
        (.dense fun _ => .integer 0) (.dense fun _ => .number 0)) := by
  refine ⟨⟨Formula.mentions_eq_leaves _, fun a => ?_, fun h => ?_⟩,
    Formula.mentions_eq_leaves _, rfl, fun h => ?_⟩
  · simp [Formula.cover_reads_iff, peekCall, Formula.leaves, Formula.leavesAll]
  · have hempty : evaluate ⟨Library.empty.register peek [], .usual⟩ Grid.empty.reader peekCall =
        .ok (.number 0) := rfl
    have hone : evaluate ⟨Library.empty.register peek [], .usual⟩ oneGrid.reader peekCall =
        .ok (.number 1) := rfl
    have hheld := h.held
    rw [hempty, hone] at hheld
    injection hheld with hnumber
    injection hnumber with hzero
    exact absurd hzero (by decide)
  · have hinteger : evaluate (.standard .usual) (.dense fun _ => .integer 0) firstPlusOne =
        .error .integerOperand := rfl
    have hnumber : evaluate (.standard .usual) (.dense fun _ => .number 0) firstPlusOne =
        .ok (.number 1) := rfl
    have hheld := h.held
    rw [hinteger, hnumber] at hheld
    cases hheld

end Spreadsheet
