import Spreadsheet.Proofs.Evaluation.Related
import Spreadsheet.Proofs.Library.Filled
import Spreadsheet.Proofs.Members

/-!
# Sparse reads and dense reads

A formula has the same value whether a range is read by its populated cells or by all its cells,
unless a sum of empty cells is evaluated on the way (`evaluate_eq_or_emptySum`). Such a sum is the
integer zero if the empty cells are left out and the number zero if they are not, and no arithmetic
takes an integer. What else it leads to is told by `evaluate_of_avoids_extrema`.
-/

namespace Spreadsheet

open Standard (Function)

/-- A call of the sum whose values are all empty. -/
structure EmptySum (lib : Library) (g : Grid) (depth : Nat) (f : Formula) : Prop where
  isSum : ∃ name args e, f = .call name args ∧ lib.find? name = some e ∧
    e.behaviour = Function.sum.behaviour
  sparse : evalWithin lib g.reader depth f = .ok (.scalar (.integer 0))
  dense : evalWithin lib (.dense g.value) depth f = .ok (.number 0)

/-! ## Ranges -/

namespace Grid

variable (g : Grid) (excused : Fault → Prop)

theorem read_of_not_mem {a : Address} (h : a ∉ g.cells) :
    (CellReader.dense g.value).read a = .ok .empty := by
  have hvalue : g.value a = .empty := by
    rw [value, Std.ExtTreeMap.getElem?_eq_none h]
  simp only [CellReader.read, CellReader.dense, hvalue]

/-- Reading the populated addresses of a list leaves out empty values. -/
theorem agree_mapM_read (as : List Address) :
    AgreeBy excused (fun vs vs' => filled vs = filled vs' ∧ vs'.length = as.length)
      ((as.filter fun a => g.cells.contains a).mapM g.reader.read)
      (as.mapM (CellReader.dense g.value).read) := by
  induction as with
  | nil => exact .ok ⟨rfl, rfl⟩
  | cons a as ih =>
    rw [List.mapM_cons]
    by_cases ha : a ∈ g.cells
    · rw [List.filter_cons_of_pos (by simpa using ha), List.mapM_cons]
      have hread : AgreeBy excused (· = ·) (g.reader.read a) ((CellReader.dense g.value).read a) :=
        .refl (fun _ => rfl) _
      refine hread.bind fun v v' _ hv => ih.bind fun vs vs' _ hvs => .ok ⟨?_, ?_⟩
      · subst hv
        unfold filled at hvs ⊢
        rw [List.filter_cons, List.filter_cons, hvs.1]
      · rw [List.length_cons, List.length_cons, hvs.2]
    · rw [List.filter_cons_of_neg (by simpa using ha), read_of_not_mem g ha]
      rw [← bind_pure ((as.filter fun a => g.cells.contains a).mapM g.reader.read)]
      refine ih.bind fun vs vs' _ hvs => .ok ⟨?_, ?_⟩
      · rw [filled_cons_empty, hvs.1]
      · rw [List.length_cons, List.length_cons, hvs.2]

theorem agree_readRange (r : CellRange) :
    AgreeBy excused Value.Thins (g.reader.readRange r)
      ((CellReader.dense g.value).readRange r) := by
  have hmembers : g.reader.members r = r.cells.filter fun a => g.cells.contains a :=
    populatedMembers_eq g.cells r
  have hcells : r.cells ≠ [] := by
    refine List.ne_nil_of_mem (CellRange.mem_cells_iff.2 ?_ : r.normalized.start ∈ r.cells)
    unfold CellRange.Covers CellRange.normalized
    dsimp only
    omega
  have hagree := agree_mapM_read g excused r.cells
  rw [← hmembers] at hagree
  unfold CellReader.readRange
  change AgreeBy _ _ ((g.reader.members r).mapM g.reader.read)
    (((CellReader.dense g.value).members r).mapM (CellReader.dense g.value).read) at hagree
  generalize (g.reader.members r).mapM g.reader.read = x at hagree
  generalize ((CellReader.dense g.value).members r).mapM (CellReader.dense g.value).read = x'
    at hagree
  cases hagree with
  | error f => exact .error f
  | excused h => exact .excused h _
  | ok h =>
    refine .ok (.range r.size h.1 fun hnil => hcells (List.length_eq_zero_iff.1 ?_))
    rw [← h.2, hnil, List.length_nil]

end Grid

/-! ## Functions -/

/-- An eager function gives the same for arguments that leave out empty members, unless it sums up
nothing else. -/
theorem eager_of_thins {f : Function} {result : List Value → Outcome} {args args' : List Value}
    (hresult : f.behaviour = .eager result) (h : List.Forall₂ Value.Thins args args') :
    (f = .sum ∧ result args = .ok (.scalar (.integer 0)) ∧ result args' = .ok (.number 0)) ∨
      result args = result args' := by
  have hfilled := Standard.filled_flatten (h.imp fun _ _ hv => hv.filled_operands)
  cases f with
  | choose => cases hresult
  | sum =>
    cases hresult
    rcases Standard.sum_of_thins h with heq | hempty
    · exact .inr heq
    · exact .inl ⟨rfl, hempty⟩
  | average =>
    cases hresult
    exact .inr (Standard.average_of_shares (h.imp fun _ _ hv => hv.share_eq))
  | minimum =>
    cases hresult
    exact .inr (Standard.minimum_of_filled hfilled)
  | maximum =>
    cases hresult
    exact .inr (Standard.maximum_of_filled hfilled)
  | count =>
    cases hresult
    exact .inr (Standard.count_of_filled hfilled)
  | concat =>
    cases hresult
    exact .inr (Standard.concat_of_filled hfilled)

/-! ## Formulas -/

section Evaluation

variable {lib : Library} {g : Grid}

/-- Only a sum can tell whether its operands leave out empty members. -/
theorem respects_thins (lib : Library) (g : Grid) : Respects lib g.reader (.dense g.value)
    (fun _ => False) Value.Thins (EmptySum lib g) where
  scalar := .scalar
  read _ := rfl
  range := g.agree_readRange _
  toNumber h := h.toNumber_eq ▸ .refl (fun _ => rfl) _
  isTrue h := h.isTrue_eq ▸ .refl (fun _ => rfl) _
  compareBy symbol hv hw := hv.compareBy_eq symbol hw
  eager := by
    intro depth name args e f result hentry hf hresult hno vs vs' hsparse hdense hvs
    rcases eager_of_thins hresult hvs with ⟨rfl, hinteger, hzero⟩ | heq
    · refine (hno ⟨⟨name, args, e, rfl, find?_of_checkCount hentry, hf⟩, ?_, ?_⟩).elim
      · rw [evalWithin_eager hentry (hf.trans hresult), hsparse]
        show finiteOutcome (result vs) = _
        rw [hinteger]
        rfl
      · rw [evalWithin_eager hentry (hf.trans hresult), hdense]
        show finiteOutcome (result vs') = _
        rw [hzero]
        rfl
    · rw [heq]
      exact .finiteOutcome_self .scalar hresult vs'

/-- A formula has the same value whether ranges are read sparsely or densely, unless a sum of empty
cells is evaluated on the way. -/
theorem evaluate_eq_or_emptySum {lang : Language} (hlib : lang.IsStandard) (g : Grid)
    (f : Formula) :
    evaluate lang g.reader f = evaluate lang (.dense g.value) f ∨
      ∃ depth h, Evaluates lang.toLibrary g.reader lang.limit.depth f depth h ∧
        EmptySum lang.toLibrary g depth h := by
  by_cases hsum : ∃ depth h, Evaluates lang.toLibrary g.reader lang.limit.depth f depth h ∧
      EmptySum lang.toLibrary g depth h
  · exact .inr hsum
  · left
    have hagree := (respects_thins lang.toLibrary g).evalWithin hlib lang.limit.depth f
      fun n h hev hempty => hsum ⟨n, h, hev, hempty⟩
    unfold evaluate eval
    generalize evalWithin lang.toLibrary g.reader lang.limit.depth f = x at hagree
    generalize evalWithin lang.toLibrary (.dense g.value) lang.limit.depth f = x' at hagree
    cases hagree with
    | ok hv => exact hv.cellValue_eq
    | error fault => rfl
    | excused h => exact h.elim

end Evaluation

/-! ## An empty sum -/

/-- One is added to the sum of two cells. -/
def sumPlusOne : Formula :=
  .binary "+" (.call "SUM" [.range ⟨⟨0, 0⟩, ⟨1, 0⟩⟩]) (.number 1)

theorem emptySum_sumPlusOne :
    evaluate (.standard .usual) Grid.empty.reader sumPlusOne = .error .integerOperand ∧
      evaluate (.standard .usual) (.dense Grid.empty.value) sumPlusOne = .ok (.number 1) ∧
        ∃ depth h,
          Evaluates .standard Grid.empty.reader NestingLimit.usual.depth sumPlusOne depth h ∧
            EmptySum .standard .empty depth h := by
  have hsparse : evaluate (.standard .usual) Grid.empty.reader sumPlusOne =
      .error .integerOperand := rfl
  have hdense : evaluate (.standard .usual) (.dense Grid.empty.value) sumPlusOne =
      .ok (.number 1) := rfl
  refine ⟨hsparse, hdense, ?_⟩
  have hlib : (Language.standard .usual).IsStandard := Library.isStandard_standard
  refine (evaluate_eq_or_emptySum hlib .empty sumPlusOne).resolve_left ?_
  rw [hsparse, hdense]
  nofun

end Spreadsheet
