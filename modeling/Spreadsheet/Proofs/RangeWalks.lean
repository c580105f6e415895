import Spreadsheet.Proofs.Members

/-!
# Two ways to the members of a range

The populated addresses of a range are found by walking the range, or by scanning all populated
addresses and sorting those it covers. Which way is taken depends on how many cells are populated
anywhere. Both lead to the same list (`range_walks_agree`), since a range is walked in the order of
the sort, over exactly the addresses it covers, whichever corners it is given by.
-/

namespace Spreadsheet

open Std (ExtTreeMap)

/-- Row by row, and by column within a row, nothing twice. -/
def RowMajor (l : List Address) : Prop :=
  l.Pairwise fun a b => a.row < b.row ∨ a.row = b.row ∧ a.column < b.column

instance (l : List Address) : Decidable (RowMajor l) :=
  inferInstanceAs (Decidable (l.Pairwise _))

/-- The addresses of a listing that a range covers, sorted. -/
def sortedMembers (listing : List Address) (r : CellRange) : List Address :=
  (listing.filter fun a => r.Covers a).mergeSort fun a b => (compare a b).isLE

theorem rowMajor_of_ascending {l : List Address} (h : l.Pairwise fun a b => compare a b = .lt) :
    RowMajor l :=
  h.imp Address.compare_eq_lt_iff.1

/-- Sorting addresses that are all different puts them in ascending order. -/
theorem ascending_mergeSort {l : List Address} (h : l.Nodup) :
    (l.mergeSort fun a b => (compare a b).isLE).Pairwise fun a b => compare a b = .lt := by
  have htrans : ∀ a b c : Address, (compare a b).isLE = true → (compare b c).isLE = true →
      (compare a c).isLE = true := fun _ _ _ => Std.TransCmp.isLE_trans
  have htotal : ∀ a b : Address, ((compare a b).isLE || (compare b a).isLE) = true := by
    intro a b
    rw [Std.OrientedOrd.eq_swap (a := b)]
    cases compare a b <;> rfl
  have hsorted := List.pairwise_mergeSort htrans htotal l
  have hnodup := (List.mergeSort_perm l fun a b => (compare a b).isLE).nodup_iff.2 h
  refine hsorted.imp₂ (fun a b hle hne => ?_) hnodup
  cases hab : compare a b with
  | lt => rfl
  | eq => exact (hne (Std.LawfulEqOrd.eq_of_compare hab)).elim
  | gt => simp [hab] at hle

theorem ascending_populatedMembers {β : Type} (m : ExtTreeMap Address β) (r : CellRange) :
    (populatedMembers m r).Pairwise fun a b => compare a b = .lt := by
  rw [populatedMembers_eq]
  exact r.ascending_cells.filter _

theorem sortedMembers_eq {β : Type} {m : ExtTreeMap Address β} {listing : List Address}
    (h : listing.Perm m.keys) (r : CellRange) : sortedMembers listing r = populatedMembers m r := by
  have hnodup : listing.Nodup :=
    h.nodup_iff.2 (Address.nodup_of_ascending ExtTreeMap.ordered_keys)
  refine Address.eq_of_ascending (ascending_mergeSort (hnodup.filter _))
    (ascending_populatedMembers m r) fun a => ?_
  rw [mem_populatedMembers_iff, sortedMembers, List.mem_mergeSort, List.mem_filter, h.mem_iff,
    ExtTreeMap.mem_keys, decide_eq_true_iff, and_comm]

/-- A range is walked row by row over exactly the addresses it covers, as many as its size says, and
the orientation of its corners makes no difference. So walking it and scanning the populated
addresses, in whichever order they are listed, give the same members: the populated addresses that
it covers, row by row. What is populated elsewhere makes no difference. -/
theorem range_walks_agree :
    (∀ r : CellRange,
      RowMajor r.cells ∧ (∀ a, a ∈ r.cells ↔ r.Covers a) ∧ (r.cells.length : Int) = r.size ∧
        r.normalized.cells = r.cells ∧ (∀ a, r.normalized.Covers a ↔ r.Covers a) ∧
        r.normalized.size = r.size) ∧
    ∀ {β : Type} (m : ExtTreeMap Address β) (r : CellRange),
      (r.cells.filter fun a => m.contains a) = populatedMembers m r ∧
      (∀ listing, listing.Perm m.keys → sortedMembers listing r = populatedMembers m r) ∧
      RowMajor (populatedMembers m r) ∧
      (∀ a, a ∈ populatedMembers m r ↔ r.Covers a ∧ a ∈ m) ∧
      ∀ {γ : Type} (m' : ExtTreeMap Address γ), (∀ a, r.Covers a → (a ∈ m ↔ a ∈ m')) →
        populatedMembers m r = populatedMembers m' r := by
  constructor
  · intro r
    exact ⟨rowMajor_of_ascending r.ascending_cells, fun a => CellRange.mem_cells_iff,
      r.length_cells, r.cells_normalized, fun a => CellRange.covers_normalized_iff,
      r.size_normalized⟩
  · intro β m r
    exact ⟨(populatedMembers_eq m r).symm, fun listing h => sortedMembers_eq h r,
      rowMajor_of_ascending (ascending_populatedMembers m r), fun a => mem_populatedMembers_iff,
      fun m' => populatedMembers_congr⟩

/-- Two cells of `B2:A1`, alone, where they are scanned, and besides two more, where the range is
walked. -/
theorem range_walks_agree_twoOfFour :
    sortedMembers [⟨1, 0⟩, ⟨0, 1⟩] ⟨⟨1, 1⟩, ⟨0, 0⟩⟩ = [⟨0, 1⟩, ⟨1, 0⟩] ∧
      populatedMembers
        (ExtTreeMap.ofList
          ([(⟨7, 7⟩, ()), (⟨1, 0⟩, ()), (⟨0, 2⟩, ()), (⟨0, 1⟩, ())] : List (Address × Unit)))
        ⟨⟨1, 1⟩, ⟨0, 0⟩⟩ = [⟨0, 1⟩, ⟨1, 0⟩] := by
  let few : ExtTreeMap Address Unit := .ofList [(⟨1, 0⟩, ()), (⟨0, 1⟩, ())] compare
  let many : ExtTreeMap Address Unit :=
    .ofList [(⟨7, 7⟩, ()), (⟨1, 0⟩, ()), (⟨0, 2⟩, ()), (⟨0, 1⟩, ())] compare
  let r : CellRange := ⟨⟨1, 1⟩, ⟨0, 0⟩⟩
  have hsame : ∀ a ∈ r.cells, (a ∈ few ↔ a ∈ many) := by decide
  obtain ⟨-, hscan, -, -, hcongr⟩ := range_walks_agree.2 few r
  have hfew : populatedMembers few r = [⟨0, 1⟩, ⟨1, 0⟩] := by decide
  exact ⟨(hscan _ (by decide)).trans hfew,
    (hcongr many fun a ha => hsame a (CellRange.mem_cells_iff.2 ha)).symm.trans hfew⟩

end Spreadsheet
