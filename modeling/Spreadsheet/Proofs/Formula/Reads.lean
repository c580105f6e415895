import Mathlib.Tactic.Tauto
import Spreadsheet.Formula.References
import Spreadsheet.Proofs.Members

/-!
# What a formula reads

The walk with a stack lists the leaves of a formula from left to right (`mentions_eq_leaves`), and
the references that a formula reads are those of its leaves, ranges normalized. They cover exactly
the addresses that a leaf mentions or covers (`cover_reads_iff`). The leaves of a part of a formula
are leaves of the formula (`Contains.mem_leaves`).
-/

namespace Spreadsheet

open Std (ExtTreeSet)

/-- An address is mentioned by itself or lies in a range that is mentioned. -/
def References.Cover (refs : References) (a : Address) : Prop :=
  a ∈ refs.cells ∨ ∃ r ∈ refs.ranges, r.Covers a

theorem References.not_cover_empty (a : Address) : ¬ References.empty.Cover a := by
  simp [References.Cover, References.empty]

namespace Formula

theorem leavesAll_append (fs gs : List Formula) :
    leavesAll (fs ++ gs) = leavesAll fs ++ leavesAll gs := by
  induction fs with
  | nil => rfl
  | cons f fs ih => simp only [List.cons_append, leavesAll, ih, List.append_assoc]

/-- The stack of a walk holds the trees whose leaves are still to be listed. -/
theorem walk_eq_leavesAll (stack : List Formula) : walk stack = leavesAll stack := by
  fun_induction walk stack <;> simp_all [leavesAll, leaves, leavesAll_append]

theorem mentions_eq_leaves (f : Formula) : f.mentions = f.leaves := by
  simp [mentions, walk_eq_leavesAll, leavesAll]

theorem mem_leavesAll_iff {fs : List Formula} {x : Reference} :
    x ∈ leavesAll fs ↔ ∃ f ∈ fs, x ∈ f.leaves := by
  induction fs with
  | nil => simp [leavesAll]
  | cons f fs ih => simp [leavesAll, ih]

end Formula

namespace References

theorem mem_cells_insert (refs : References) (x : Reference) (a : Address) :
    a ∈ (refs.insert x).cells ↔ x = .cell a ∨ a ∈ refs.cells := by
  cases x <;> simp [insert, ExtTreeSet.mem_insert]

theorem mem_ranges_insert (refs : References) (x : Reference) (r : CellRange) :
    r ∈ (refs.insert x).ranges ↔ (∃ r', x = .range r' ∧ r'.normalized = r) ∨ r ∈ refs.ranges := by
  cases x <;> simp [insert, ExtTreeSet.mem_insert]

theorem mem_ofList_aux (l : List Reference) : ∀ refs : References,
    (∀ a, a ∈ (l.foldl insert refs).cells ↔ .cell a ∈ l ∨ a ∈ refs.cells) ∧
      ∀ r, r ∈ (l.foldl insert refs).ranges ↔
        (∃ r', .range r' ∈ l ∧ r'.normalized = r) ∨ r ∈ refs.ranges := by
  induction l with
  | nil => simp
  | cons x l ih =>
    intro refs
    obtain ⟨hcells, hranges⟩ := ih (refs.insert x)
    constructor
    · intro a
      rw [List.foldl_cons, hcells, mem_cells_insert, List.mem_cons]
      tauto
    · intro r
      rw [List.foldl_cons, hranges, mem_ranges_insert]
      simp only [List.mem_cons, or_and_right, exists_or, eq_comm (b := x), or_assoc,
        or_left_comm]

theorem mem_cells_ofList {l : List Reference} {a : Address} :
    a ∈ (ofList l).cells ↔ .cell a ∈ l := by
  rw [ofList, (mem_ofList_aux l empty).1 a]
  simp [empty]

theorem mem_ranges_ofList {l : List Reference} {r : CellRange} :
    r ∈ (ofList l).ranges ↔ ∃ r', .range r' ∈ l ∧ r'.normalized = r := by
  rw [ofList, (mem_ofList_aux l empty).2 r]
  simp [empty]

/-- Which corners of a range are written makes no difference to what it covers. -/
theorem cover_ofList_iff {l : List Reference} {a : Address} :
    (ofList l).Cover a ↔ .cell a ∈ l ∨ ∃ r, .range r ∈ l ∧ r.Covers a := by
  rw [Cover, mem_cells_ofList]
  refine or_congr_right ⟨?_, ?_⟩
  · rintro ⟨r, hr, hcovers⟩
    obtain ⟨r', hr', rfl⟩ := mem_ranges_ofList.1 hr
    exact ⟨r', hr', CellRange.covers_normalized_iff.1 hcovers⟩
  · rintro ⟨r, hr, hcovers⟩
    exact ⟨r.normalized, mem_ranges_ofList.2 ⟨r, hr, rfl⟩,
      CellRange.covers_normalized_iff.2 hcovers⟩

end References

/-! ## Parts -/

/-- A formula is a part of another one, at any depth. -/
inductive Formula.Contains : Formula → Formula → Prop
  | self (f : Formula) : Contains f f
  | operand {name : Text} {args : List Formula} {arg g : Formula} (harg : arg ∈ args)
    (h : Contains arg g) : Contains (.call name args) g
  | unary {symbol : Text} {operand g : Formula} (h : Contains operand g) :
    Contains (.unary symbol operand) g
  | left {symbol : Text} {left right g : Formula} (h : Contains left g) :
    Contains (.binary symbol left right) g
  | right {symbol : Text} {left right g : Formula} (h : Contains right g) :
    Contains (.binary symbol left right) g

theorem Formula.Contains.trans {f g h : Formula} (hg : f.Contains g) (hh : g.Contains h) :
    f.Contains h := by
  induction hg with
  | self => exact hh
  | operand harg _ ih => exact .operand harg (ih hh)
  | unary _ ih => exact .unary (ih hh)
  | left _ ih => exact .left (ih hh)
  | right _ ih => exact .right (ih hh)

theorem Formula.Contains.mem_leaves {f g : Formula} (hg : f.Contains g) {x : Reference}
    (hx : x ∈ g.leaves) : x ∈ f.leaves := by
  induction hg with
  | self => exact hx
  | operand harg _ ih => exact mem_leavesAll_iff.2 ⟨_, harg, ih hx⟩
  | unary _ ih => exact ih hx
  | left _ ih => exact List.mem_append_left _ (ih hx)
  | right _ ih => exact List.mem_append_right _ (ih hx)

/-! ## What is covered -/

theorem Formula.cover_reads_iff {f : Formula} {a : Address} :
    f.reads.Cover a ↔ .cell a ∈ f.leaves ∨ ∃ r, .range r ∈ f.leaves ∧ r.Covers a := by
  rw [reads, mentions_eq_leaves, References.cover_ofList_iff]

end Spreadsheet
