import Mathlib.Logic.Basic
import Spreadsheet.Grid

/-!
# The populated addresses of a range

Walking a range and scanning the populated addresses give the same list, so `populatedMembers`
depends on nothing but which addresses of the range are populated.
-/

namespace Spreadsheet

open Std (ExtTreeMap)

namespace Address

theorem compare_eq_lt_iff {a b : Address} :
    compare a b = .lt ↔ a.row < b.row ∨ a.row = b.row ∧ a.column < b.column := by
  show compareLex (compareOn Address.row) (compareOn Address.column) a b = .lt ↔ _
  simp only [compareLex, compareOn, Ordering.then_eq_lt, Std.LawfulEqOrd.compare_eq_iff_eq,
    Int.compare_eq_lt]

/-- A list in ascending order has nothing twice. -/
theorem nodup_of_ascending {l : List Address} (h : l.Pairwise fun a b => compare a b = .lt) :
    l.Nodup :=
  h.imp fun hlt heq => by simp [heq] at hlt

/-- Ascending lists of the same addresses are equal. -/
theorem eq_of_ascending {l l' : List Address} (h : l.Pairwise fun a b => compare a b = .lt)
    (h' : l'.Pairwise fun a b => compare a b = .lt) (hmem : ∀ a, a ∈ l ↔ a ∈ l') : l = l' :=
  List.Perm.eq_of_pairwise
    (fun a b _ _ (hab : compare a b = .lt) hba => (Std.OrientedCmp.not_lt_of_lt hab hba).elim)
    h h' ((List.perm_ext_iff_of_nodup (nodup_of_ascending h) (nodup_of_ascending h')).2 hmem)

end Address

namespace CellRange

theorem normalized_normalized (r : CellRange) : r.normalized.normalized = r.normalized := by
  simp only [normalized]
  congr 2 <;> omega

theorem covers_normalized_iff {r : CellRange} {a : Address} :
    r.normalized.Covers a ↔ r.Covers a := by
  simp only [Covers, normalized_normalized]

theorem mem_cells_iff {r : CellRange} {a : Address} : a ∈ r.cells ↔ r.Covers a := by
  simp only [cells, List.mem_flatMap, List.mem_map, List.mem_range, Covers, height, width]
  constructor
  · rintro ⟨i, hi, j, hj, rfl⟩
    simp only
    omega
  · rintro ⟨h1, h2, h3, h4⟩
    refine ⟨(a.row - r.normalized.start.row).toNat, by omega,
      (a.column - r.normalized.start.column).toNat, by omega, ?_⟩
    cases a
    simp only [Address.mk.injEq] at *
    omega

theorem cells_normalized (r : CellRange) : r.normalized.cells = r.cells := by
  simp only [cells, height, width, normalized_normalized]

theorem size_normalized (r : CellRange) : r.normalized.size = r.size := by
  simp only [size, height, width, normalized_normalized]

/-- Walking a range passes as many addresses as its area says. -/
theorem length_cells (r : CellRange) : (r.cells.length : Int) = r.size := by
  have hheight : 0 ≤ r.height := by
    simp only [height, normalized]
    omega
  have hwidth : 0 ≤ r.width := by
    simp only [width, normalized]
    omega
  have hlength : r.cells.length = r.height.toNat * r.width.toNat := by
    simp only [cells, List.length_flatMap, List.length_map, List.length_range, List.map_const',
      List.sum_replicate_nat]
  rw [hlength, size, Int.natCast_mul, Int.toNat_of_nonneg hheight, Int.toNat_of_nonneg hwidth]

/-- A range is walked in ascending order. -/
theorem ascending_cells (r : CellRange) : r.cells.Pairwise fun a b => compare a b = .lt := by
  refine List.pairwise_flatMap.2 ⟨fun i _ => ?_, ?_⟩
  · refine List.pairwise_map.2 (List.pairwise_lt_range.imp fun {j j'} (hlt : j < j') => ?_)
    rw [Address.compare_eq_lt_iff]
    exact .inr ⟨rfl, by simpa using hlt⟩
  · refine List.pairwise_lt_range.imp fun {i i'} (hlt : i < i') x hx y hy => ?_
    obtain ⟨_, -, rfl⟩ := List.mem_map.1 hx
    obtain ⟨_, -, rfl⟩ := List.mem_map.1 hy
    rw [Address.compare_eq_lt_iff]
    exact .inl (by simpa using hlt)

end CellRange

theorem populatedMembers_eq {β : Type} (m : ExtTreeMap Address β) (r : CellRange) :
    populatedMembers m r = r.cells.filter fun a => m.contains a := by
  unfold populatedMembers
  split
  · rfl
  · refine Address.eq_of_ascending ?_ ((CellRange.ascending_cells r).filter _) fun a => ?_
    · exact ExtTreeMap.ordered_keys.filter _
    · simp [CellRange.mem_cells_iff, and_comm]

theorem mem_populatedMembers_iff {β : Type} {m : ExtTreeMap Address β} {r : CellRange}
    {a : Address} : a ∈ populatedMembers m r ↔ r.Covers a ∧ a ∈ m := by
  rw [populatedMembers_eq, List.mem_filter, CellRange.mem_cells_iff, ExtTreeMap.contains_iff_mem]

/-- What is populated outside a range does not matter. -/
theorem populatedMembers_congr {β γ : Type} {m : ExtTreeMap Address β} {m' : ExtTreeMap Address γ}
    {r : CellRange} (h : ∀ a, r.Covers a → (a ∈ m ↔ a ∈ m')) :
    populatedMembers m r = populatedMembers m' r := by
  rw [populatedMembers_eq, populatedMembers_eq]
  refine List.filter_congr fun a ha => ?_
  rw [Bool.eq_iff_iff, ExtTreeMap.contains_iff_mem, ExtTreeMap.contains_iff_mem]
  exact h a (CellRange.mem_cells_iff.1 ha)

end Spreadsheet
