import Mathlib
import Spreadsheet.Number.Order

/-!
# Order of finite numbers

Comparing two numbers the other way round swaps the answer (`floatOrder_swap`), and of two finite
numbers, or of a finite number and an integer, one is less or they are equal.
-/

open Float.Model

namespace Spreadsheet

theorem compare_unpacked_swap (u v : UnpackedFloat) :
    v.compare u = (u.compare v).map Ordering.swap := by
  have swap_compare (m n : Nat) (e f : Int) :
      (compare f e).then (compare n m) = ((compare e f).then (compare m n)).swap := by
    rw [Ordering.swap_then, Int.compare_swap, Nat.compare_swap]
  cases u with
  | notANumber => cases v <;> rfl
  | infinity s =>
    cases v with
    | infinity t => cases s <;> cases t <;> rfl
    | notANumber => cases s <;> rfl
    | zero t | finite t => cases s <;> cases t <;> rfl
  | zero s =>
    cases v with
    | notANumber | zero => rfl
    | infinity t | finite t => cases t <;> rfl
  | finite s m e hm =>
    cases v with
    | notANumber => rfl
    | infinity t | zero t => cases s <;> cases t <;> rfl
    | finite t n f hn =>
      cases s <;> cases t
      · exact congrArg some (congrArg Ordering.swap (swap_compare m n e f))
      · rfl
      · rfl
      · exact congrArg some (swap_compare m n e f)

variable {x y : Float}

theorem beq_iff_compare (x y : Float) :
    (x == y) = true ↔ x.toModel.unpack.compare y.toModel.unpack = some .eq := by
  show (x.toModel.unpack.compare y.toModel.unpack == some .eq) = true ↔ _
  rw [beq_iff_eq]

/-- The order of two numbers is the one of what they unpack to. -/
theorem floatOrder_eq_compare (x y : Float) :
    floatOrder x y = x.toModel.unpack.compare y.toModel.unpack := by
  have hlt (x y : Float) : x < y ↔ x.toModel.unpack.compare y.toModel.unpack = some .lt := by
    show decide ((x.toModel.unpack.compare y.toModel.unpack == some .lt) = true) = true ↔ _
    rw [decide_eq_true_iff, beq_iff_eq]
  simp only [floatOrder, hlt, beq_iff_compare]
  rw [compare_unpacked_swap x.toModel.unpack y.toModel.unpack]
  cases x.toModel.unpack.compare y.toModel.unpack with
  | none => rfl
  | some o => cases o <;> rfl

theorem floatOrder_swap (x y : Float) : floatOrder y x = (floatOrder x y).map Ordering.swap := by
  rw [floatOrder_eq_compare, floatOrder_eq_compare, compare_unpacked_swap]

/-- Finite numbers are comparable. -/
theorem exists_floatOrder (hx : x.isFinite) (hy : y.isFinite) : ∃ o, floatOrder x y = some o := by
  rw [floatOrder_eq_compare]
  change x.toModel.unpack.isFinite = true at hx
  change y.toModel.unpack.isFinite = true at hy
  generalize x.toModel.unpack = u at hx
  generalize y.toModel.unpack = v at hy
  cases u with
  | notANumber | infinity => cases hx
  | zero s =>
    cases v with
    | notANumber | infinity => cases hy
    | zero => exact ⟨_, rfl⟩
    | finite t => cases t <;> exact ⟨_, rfl⟩
  | finite s =>
    cases v with
    | notANumber | infinity => cases hy
    | zero t => cases s <;> exact ⟨_, rfl⟩
    | finite t => cases s <;> cases t <;> exact ⟨_, rfl⟩

theorem exists_floatIntOrder (hx : x.isFinite) (n : Int) : ∃ o, floatIntOrder x n = some o := by
  unfold floatIntOrder
  change x.toModel.unpack.isFinite = true at hx
  generalize x.toModel.unpack = u at hx
  cases u with
  | notANumber | infinity => cases hx
  | zero => exact ⟨_, rfl⟩
  | finite s m e hm =>
    dsimp only
    split <;> exact ⟨_, rfl⟩

/-- A double compares with the integer zero as with the number zero. -/
theorem floatIntOrder_zero (x : Float) : floatIntOrder x 0 = floatOrder x 0 := by
  have hzero : (0 : Float).toModel.unpack = .zero .positive := rfl
  rw [floatOrder_eq_compare, hzero, floatIntOrder]
  cases x.toModel.unpack with
  | notANumber => rfl
  | infinity sign => cases sign <;> rfl
  | zero sign => rfl
  | finite sign m e hm =>
    have hpow : (0 : Int) < Nat.pow 2 e.toNat := Int.natCast_pos.2 (Nat.two_pow_pos _)
    have hpos : (0 : Int) < m := Int.natCast_pos.2 hm
    dsimp only
    cases sign with
    | positive =>
      have hgt : compare ((m : Int) * Nat.pow 2 e.toNat) 0 = .gt :=
        Int.compare_eq_gt.2 (Int.mul_pos hpos hpow)
      split
      · exact congrArg some hgt
      · rw [Int.zero_mul]
        exact congrArg some (Int.compare_eq_gt.2 hpos)
    | negative =>
      have hneg : -(m : Int) < 0 := Int.neg_neg_of_pos hpos
      split
      · exact congrArg some (Int.compare_eq_lt.2 (Int.mul_neg_of_neg_of_pos hneg hpow))
      · rw [Int.zero_mul]
        exact congrArg some (Int.compare_eq_lt.2 hneg)

end Spreadsheet
