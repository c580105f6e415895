import Mathlib.Data.List.Forall2
import Spreadsheet.Library.Standard
import Spreadsheet.Proofs.Evaluation
import Spreadsheet.Proofs.Number.Addition

/-!
# Empty members

A standard function gives the same whether a range lists its empty members or not: they add nothing
to a total, are not counted and have no number and no text. The sum is an exception if nothing else
is left: the sum of no values is an integer (`sum_of_thins`).
-/

namespace Spreadsheet

/-! ## Lists of values -/

/-- The values that are not empty. -/
def filled (vs : List CellValue) : List CellValue :=
  vs.filter fun v => v ≠ .empty

theorem filled_cons_empty (vs : List CellValue) : filled (.empty :: vs) = filled vs :=
  List.filter_cons_of_neg (by simp)

theorem filled_cons {v : CellValue} (hv : v ≠ .empty) (vs : List CellValue) :
    filled (v :: vs) = v :: filled vs :=
  List.filter_cons_of_pos (by simpa using hv)

namespace Standard

theorem foldl_filled (vs : List CellValue) : ∀ {x : Float}, ¬ IsNegZero x →
    (filled vs).foldl (fun sum v => sum + addend v) x =
      vs.foldl (fun sum v => sum + addend v) x := by
  induction vs with
  | nil => exact fun _ => rfl
  | cons v vs ih =>
    intro x hx
    by_cases hv : v = .empty
    · subst hv
      rw [filled_cons_empty, List.foldl_cons, ih hx]
      have hsame : x + addend .empty = x := add_zero_of_not_isNegZero hx
      rw [hsame]
    · rw [filled_cons hv, List.foldl_cons, List.foldl_cons, ih (not_isNegZero_add hx _)]

theorem total_filled (vs : List CellValue) : total (filled vs) = total vs :=
  foldl_filled vs not_isNegZero_zero

theorem countP_filled (vs : List CellValue) :
    (filled vs).countP isCounted = vs.countP isCounted := by
  rw [filled, List.countP_filter]
  refine List.countP_congr fun v _ => ?_
  cases v <;> simp [isCounted]

theorem filterMap_number?_filled (vs : List CellValue) :
    (filled vs).filterMap CellValue.number? = vs.filterMap CellValue.number? := by
  induction vs with
  | nil => rfl
  | cons v vs ih =>
    by_cases hv : v = .empty
    · subst hv
      rw [filled_cons_empty, ih]
      rfl
    · rw [filled_cons hv, List.filterMap_cons, List.filterMap_cons, ih]

theorem map_flatten_mapM_display_cons (v : CellValue) (vs : List CellValue) :
    ((v :: vs).mapM CellValue.display).map List.flatten =
      v.display.bind fun t => ((vs.mapM CellValue.display).map List.flatten).map (t ++ ·) := by
  rw [List.mapM_cons]
  cases v.display with
  | error f => rfl
  | ok t => cases vs.mapM CellValue.display <;> rfl

theorem map_flatten_mapM_display_filled (vs : List CellValue) :
    ((filled vs).mapM CellValue.display).map List.flatten =
      (vs.mapM CellValue.display).map List.flatten := by
  induction vs with
  | nil => rfl
  | cons v vs ih =>
    by_cases hv : v = .empty
    · subst hv
      rw [filled_cons_empty, ih, map_flatten_mapM_display_cons]
      cases vs.mapM CellValue.display <;> rfl
    · rw [filled_cons hv, map_flatten_mapM_display_cons, map_flatten_mapM_display_cons, ih]

end Standard

/-! ## Arguments -/

namespace Value

/-- A value that is read sparsely and the same value read densely: a range may leave out empty
members. -/
inductive Thins : Value → Value → Prop where
  | scalar (v : CellValue) : Thins (.scalar v) (.scalar v)
  | range {members members' : List CellValue} (size : Int) (h : filled members = filled members')
    (hne : members' ≠ []) : Thins (.range members size) (.range members' size)

variable {v v' w w' : Value}

theorem Thins.toNumber_eq (h : v.Thins v') : v.toNumber = v'.toNumber := by
  cases h <;> rfl

theorem Thins.isTrue_eq (h : v.Thins v') : v.isTrue = v'.isTrue := by
  cases h <;> rfl

theorem Thins.compareBy_eq (symbol : Text) (h : v.Thins v') (hw : w.Thins w') :
    v.compareBy symbol w = v'.compareBy symbol w' := by
  cases h <;> cases hw <;> rfl

theorem Thins.cellValue_eq (h : v.Thins v') : cellValue v = cellValue v' := by
  cases h <;> rfl

theorem Thins.filled_operands (h : v.Thins v') : filled v.operands = filled v'.operands := by
  cases h with
  | scalar => rfl
  | range _ h => exact h

theorem Thins.share_eq (h : v.Thins v') : Standard.share v = Standard.share v' := by
  cases h with
  | scalar => rfl
  | range size h hne =>
    rw [Standard.share, Standard.share, ← Standard.total_filled, h, Standard.total_filled]

end Value

namespace Standard

variable {args args' : List Value}

theorem filled_flatten
    (h : List.Forall₂ (fun v v' : Value => filled v.operands = filled v'.operands) args args') :
    filled (flatten args) = filled (flatten args') := by
  induction h with
  | nil => rfl
  | cons hv _ ih =>
    show filled (_ ++ flatten _) = filled (_ ++ flatten _)
    unfold filled at hv ih ⊢
    rw [List.filter_append, List.filter_append, hv, ih]

/-- Densely read arguments list something. -/
theorem flatten_ne_nil (h : List.Forall₂ Value.Thins args args') (hne : flatten args ≠ []) :
    flatten args' ≠ [] := by
  cases h with
  | nil => exact hne
  | cons hv _ =>
    cases hv with
    | scalar => exact List.cons_ne_nil _ _
    | range size h hmembers => exact fun hnil => hmembers (List.append_eq_nil_iff.1 hnil).1

theorem sum_eq_integer (h : flatten args = []) : sum args = .ok (.scalar (.integer 0)) := by
  rw [sum, h]

theorem sum_eq_number (h : flatten args ≠ []) :
    sum args = .ok (.number (total (flatten args))) := by
  unfold sum
  split
  · next hnil => exact (h hnil).elim
  · rfl

/-- A sum is the same, unless all of its values are empty and left out. -/
theorem sum_of_thins (h : List.Forall₂ Value.Thins args args') : sum args = sum args' ∨
    sum args = .ok (.scalar (.integer 0)) ∧ sum args' = .ok (.number 0) := by
  have htotal : total (flatten args) = total (flatten args') := by
    rw [← total_filled, filled_flatten (h.imp fun _ _ hv => hv.filled_operands), total_filled]
  by_cases hdense : flatten args' = []
  · have hsparse : flatten args = [] := not_not.1 fun hne => flatten_ne_nil h hne hdense
    exact .inl (by rw [sum_eq_integer hsparse, sum_eq_integer hdense])
  · rw [sum_eq_number hdense, ← htotal]
    by_cases hsparse : flatten args = []
    · rw [sum_eq_integer hsparse, hsparse]
      exact .inr ⟨rfl, rfl⟩
    · exact .inl (sum_eq_number hsparse)

/-! ## What the functions depend on

An average depends on the shares of its arguments, the other functions on the operands that are not
empty. -/

theorem average_of_shares (h : List.Forall₂ (fun v v' => share v = share v') args args') :
    average args = average args' := by
  have hshare : args.map share = args'.map share := by
    induction h with
    | nil => rfl
    | cons hv _ ih => rw [List.map_cons, List.map_cons, hv, ih]
  have haverage (args : List Value) : average args =
      let shares := args.map share
      let whole := shares.foldl (fun sum s => sum + s.1) 0
      let count := shares.foldl (fun n s => n + s.2) 0
      if count = 0 then .ok (.number 0)
      else
        let divisor := nearestToInt count
        if divisor.isInf then .error .countTooLarge
        else .ok (.number (whole / divisor)) := by
    simp only [average, List.foldl_map]
  rw [haverage, haverage, hshare]

section Filled

variable (h : filled (flatten args) = filled (flatten args'))
include h

theorem count_of_filled : count args = count args' := by
  rw [count, count, ← countP_filled, h, countP_filled]

theorem numbers_of_filled : numbers args = numbers args' := by
  rw [numbers, numbers, ← filterMap_number?_filled, h, filterMap_number?_filled]

theorem minimum_of_filled : minimum args = minimum args' := by
  rw [minimum, minimum, numbers_of_filled h]

theorem maximum_of_filled : maximum args = maximum args' := by
  rw [maximum, maximum, numbers_of_filled h]

theorem concat_of_filled : concat args = concat args' := by
  have hconcat (args : List Value) : concat args =
      (((flatten args).mapM CellValue.display).map List.flatten).map
        fun t => .scalar (.text t) := by
    unfold concat
    cases (flatten args).mapM CellValue.display <;> rfl
  rw [hconcat, hconcat, ← map_flatten_mapM_display_filled, h, map_flatten_mapM_display_filled]

end Filled

end Standard

end Spreadsheet
