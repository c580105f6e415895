import Spreadsheet.Proofs.Comparisons
import Spreadsheet.Proofs.SparseReads

/-!
# What an empty sum leads to

The sum of empty cells is the integer zero if they are left out and the number zero if they are not.
Comparisons take the one for the other, and so do all eager functions but the extrema. So unless an
extremum is evaluated on the way, a sparse evaluation fails where the integer is taken for a number,
or it ends as the dense one does, up to the kind of a zero (`evaluate_of_avoids_extrema`).
-/

namespace Spreadsheet

open Standard (Function)

/-! ## Comparisons -/

theorem Comparand.order?_zero (b : Comparand) : (integer 0).order? b = (number 0).order? b := by
  have hinteger := order?_eq_bind (a := integer 0) (b := b) nofun
  have hnumber := order?_eq_bind (a := number 0) (b := b) nofun
  rw [hinteger, hnumber]
  show b.numeric?.map (numericOrder (integer 0)) = b.numeric?.map (numericOrder (number 0))
  refine congrArg (Option.map · b.numeric?) (funext fun c => ?_)
  cases c with
  | text t => rfl
  | number y =>
    show (floatIntOrder y 0).map Ordering.swap = floatOrder 0 y
    rw [floatIntOrder_zero]
    exact (floatOrder_swap y 0).symm
  | integer n => exact (show some (compare 0 n) = floatIntOrder 0 n from rfl)

namespace CellValue

theorem order?_zero (v : CellValue) : order? (integer 0) v = order? (number 0) v :=
  Comparand.order?_zero ((Comparand.ofValue? v).getD (.number 0))

theorem order?_zero_right (v : CellValue) : order? v (integer 0) = order? v (number 0) := by
  rw [order?_swap, order?_zero, ← order?_swap]

theorem compareBy_zero (symbol : Text) (v : CellValue) :
    compareBy symbol (integer 0) v = compareBy symbol (number 0) v := by
  rw [compareBy, compareBy, order?_zero]

theorem compareBy_zero_right (symbol : Text) (v : CellValue) :
    compareBy symbol v (integer 0) = compareBy symbol v (number 0) := by
  rw [compareBy, compareBy, order?_zero_right]

end CellValue

/-! ## Functions -/

/-- A value with the number zero in the place of the integer zero. -/
def CellValue.floated : CellValue → CellValue
  | integer n => if n = 0 then number 0 else integer n
  | v => v

/-- A value with the number zero in the place of the integer zero, also among its members. -/
def Value.floated : Value → Value
  | scalar v => scalar v.floated
  | range members size => range (members.map CellValue.floated) size
  | array members => array (members.map CellValue.floated)

namespace CellValue

theorem floated_eq (v : CellValue) : v.floated = v ∨ v = integer 0 ∧ v.floated = number 0 := by
  cases v with
  | integer n =>
    by_cases hn : n = 0
    · subst hn
      exact .inr ⟨rfl, rfl⟩
    · exact .inl (if_neg hn)
  | empty | number | text | error => exact .inl rfl

theorem addend_floated (v : CellValue) : Standard.addend v.floated = Standard.addend v := by
  rcases v.floated_eq with h | ⟨rfl, h⟩ <;> rw [h]
  rfl

theorem isCounted_floated (v : CellValue) :
    Standard.isCounted v.floated = Standard.isCounted v := by
  rcases v.floated_eq with h | ⟨rfl, h⟩ <;> rw [h]
  rfl

theorem display_floated (v : CellValue) : v.floated.display = v.display := by
  rcases v.floated_eq with h | ⟨rfl, h⟩ <;> rw [h]
  decide +kernel

theorem floated_eq_empty_iff (v : CellValue) : v.floated = empty ↔ v = empty := by
  rcases v.floated_eq with h | ⟨rfl, h⟩ <;> rw [h]
  exact ⟨nofun, nofun⟩

end CellValue

theorem filled_map_floated (vs : List CellValue) :
    filled (vs.map CellValue.floated) = (filled vs).map CellValue.floated := by
  simp only [filled, List.filter_map, Function.comp_def, CellValue.floated_eq_empty_iff, ne_eq]

namespace Standard

theorem flatten_map_floated (args : List Value) :
    flatten (args.map Value.floated) = (flatten args).map CellValue.floated := by
  rw [flatten, flatten, List.map_flatMap, List.flatMap_map]
  refine congrArg (List.flatMap · args) (funext fun v => ?_)
  cases v <;> rfl

theorem total_map_floated (vs : List CellValue) :
    total (vs.map CellValue.floated) = total vs := by
  simp only [total, List.foldl_map, CellValue.addend_floated]

theorem share_floated (v : Value) : share v.floated = share v := by
  cases v with
  | scalar v => exact congrArg (·, 1) v.addend_floated
  | range members size => exact congrArg (·, size) (total_map_floated members)
  | array => rfl

/-- Of the eager functions, only the extrema can tell the integer zero from the number zero. -/
theorem eager_map_floated {f : Function} {result : List Value → Outcome}
    (hresult : f.behaviour = .eager result) (hminimum : f ≠ .minimum) (hmaximum : f ≠ .maximum)
    (args : List Value) : result (args.map Value.floated) = result args := by
  cases f with
  | minimum => exact (hminimum rfl).elim
  | maximum => exact (hmaximum rfl).elim
  | choose => cases hresult
  | sum =>
    cases hresult
    have hflatten := flatten_map_floated args
    cases hargs : flatten args with
    | nil =>
      rw [hargs] at hflatten
      rw [sum_eq_integer hflatten, sum_eq_integer hargs]
    | cons v vs =>
      have hne : flatten args ≠ [] := by simp [hargs]
      have hne' : flatten (args.map Value.floated) ≠ [] := by simp [hflatten, hargs]
      rw [sum_eq_number hne', sum_eq_number hne, hflatten, total_map_floated]
  | average =>
    cases hresult
    refine average_of_shares (List.forall₂_map_left_iff.2 (List.forall₂_same.2 fun v _ => ?_))
    exact share_floated v
  | count =>
    cases hresult
    rw [count, count, flatten_map_floated, List.countP_map]
    simp only [Function.comp_def, CellValue.isCounted_floated]
  | concat =>
    cases hresult
    rw [concat, concat, flatten_map_floated, List.mapM_map]
    simp only [Function.comp_def, CellValue.display_floated]

end Standard

/-! ## Evaluations -/

/-- A value that is read sparsely and the same value read densely: a range may leave out empty
members, and an empty sum is an integer. -/
inductive Value.Blurs : Value → Value → Prop where
  | thins {v v' : Value} (h : v.Thins v') : Blurs v v'
  | zero : Blurs (.scalar (.integer 0)) (.number 0)

namespace Value.Blurs

variable {v v' w w' : Value}

theorem thins_floated (h : v.Blurs v') : v.floated.Thins v'.floated := by
  cases h with
  | zero => exact .scalar _
  | thins h =>
    cases h with
    | scalar v => exact .scalar _
    | range size h hne =>
      exact .range size (by rw [filled_map_floated, filled_map_floated, h]) (by simpa using hne)

theorem compareBy_eq (symbol : Text) (h : v.Blurs v') (hw : w.Blurs w') :
    v.compareBy symbol w = v'.compareBy symbol w' := by
  have hleft (u : Value) :
      compareBy symbol (.scalar (.integer 0)) u = compareBy symbol (.number 0) u := by
    cases u with
    | scalar u => exact CellValue.compareBy_zero symbol u
    | range | array => rfl
  have hright (u : Value) :
      u.compareBy symbol (.scalar (.integer 0)) = u.compareBy symbol (.number 0) := by
    cases u with
    | scalar u => exact CellValue.compareBy_zero_right symbol u
    | range | array => rfl
  cases h with
  | thins h =>
    cases hw with
    | thins hw => exact h.compareBy_eq symbol hw
    | zero =>
      rw [hright]
      exact h.compareBy_eq symbol (.scalar _)
  | zero =>
    cases hw with
    | thins hw =>
      rw [hleft]
      exact (Thins.scalar _).compareBy_eq symbol hw
    | zero => rw [hleft, hright]

end Value.Blurs

/-- A call of the smallest or the largest number. -/
def IsExtremum (lib : Library) (f : Formula) : Prop :=
  ∃ name args e, f = .call name args ∧ lib.find? name = some e ∧
    (e.behaviour = Function.minimum.behaviour ∨ e.behaviour = Function.maximum.behaviour)

theorem respects_blurs (lib : Library) (g : Grid) : Respects lib g.reader (.dense g.value)
    (· = .integerOperand) Value.Blurs (fun _ f => IsExtremum lib f) where
  scalar v := .thins (.scalar v)
  read _ := rfl
  range r := (g.agree_readRange _ r).imp .thins
  toNumber h := by
    cases h with
    | thins h => exact h.toNumber_eq ▸ .refl (fun _ => rfl) _
    | zero =>
      refine .excused ?_ _
      rfl
  isTrue h := by
    cases h with
    | thins h => exact h.isTrue_eq ▸ .refl (fun _ => rfl) _
    | zero =>
      refine .excused ?_ _
      rfl
  compareBy symbol hv hw := hv.compareBy_eq symbol hw
  eager := by
    intro depth name args e f result hentry hf hresult hno vs vs' _ _ hvs
    have hextremum (h : f = .minimum ∨ f = .maximum) : False := by
      refine hno ⟨name, args, e, rfl, find?_of_checkCount hentry, ?_⟩
      rcases h with rfl | rfl
      · exact .inl hf
      · exact .inr hf
    have hfloated := Standard.eager_map_floated hresult (fun h => hextremum (.inl h))
      fun h => hextremum (.inr h)
    have hthins : List.Forall₂ Value.Thins (vs.map Value.floated) (vs'.map Value.floated) := by
      rw [List.forall₂_map_left_iff, List.forall₂_map_right_iff]
      exact hvs.imp fun _ _ hv => hv.thins_floated
    rcases eager_of_thins hresult hthins with ⟨-, hinteger, hzero⟩ | heq
    · rw [← hfloated vs, hinteger, ← hfloated vs', hzero]
      exact .ok .zero
    · rw [← hfloated vs, heq, hfloated vs']
      exact .finiteOutcome_self (fun v => .thins (.scalar v)) hresult vs'

/-- Unless an extremum is evaluated on the way, a sparse evaluation fails because an integer is
taken for a number, or it is the integer zero for the number zero, or it ends as the dense one does.
-/
theorem evaluate_of_avoids_extrema {lang : Language} (hlib : lang.IsStandard) (g : Grid)
    {f : Formula} (hf : Avoids lang.toLibrary g.reader (fun _ h => IsExtremum lang.toLibrary h)
      lang.limit.depth f) :
    evaluate lang g.reader f = .error .integerOperand ∨
      evaluate lang g.reader f = .ok (.integer 0) ∧
        evaluate lang (.dense g.value) f = .ok (.number 0) ∨
      evaluate lang g.reader f = evaluate lang (.dense g.value) f := by
  have hagree := (respects_blurs lang.toLibrary g).evalWithin hlib lang.limit.depth f hf
  unfold evaluate eval
  generalize evalWithin lang.toLibrary g.reader lang.limit.depth f = x at hagree
  generalize evalWithin lang.toLibrary (.dense g.value) lang.limit.depth f = x' at hagree
  cases hagree with
  | ok hv =>
    cases hv with
    | thins hv => exact .inr (.inr hv.cellValue_eq)
    | zero => exact .inr (.inl ⟨rfl, rfl⟩)
  | error fault => exact .inr (.inr rfl)
  | excused hfault =>
    subst hfault
    exact .inl rfl

/-- The smaller one of an empty sum and three: an extremum leaves the integer out. -/
example : let f : Formula := .call "MIN" [.call "SUM" [.range ⟨⟨0, 0⟩, ⟨1, 0⟩⟩], .number 3]
    evaluate (.standard .usual) Grid.empty.reader f = .ok (.number 3) ∧
      evaluate (.standard .usual) (.dense Grid.empty.value) f = .ok (.number 0) :=
  ⟨rfl, rfl⟩

end Spreadsheet
