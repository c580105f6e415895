import Mathlib
import Spreadsheet.Number.Numeral

/-!
# Numerals write no negative number

A numeral has no sign of its own. Products, quotients and rounding keep to the positive sign
(`nonNegative_mul`, `nonNegative_div`), and so does the value of a numeral, however it is computed
(`Numeral.value_nonneg`).
-/

open Float.Model Float.Model.UnpackedFloat

namespace Spreadsheet

/-- A number whose sign, if it has one, is positive. -/
def NonNegative : UnpackedFloat → Prop
  | .notANumber => True
  | .infinity s | .zero s | .finite s _ _ _ => s = .positive

theorem nonNegative_unpack {b : BitVec Format.binary64.numBits}
    (h : unpackSign b = Sign.positive.toBitVec) :
    NonNegative (UnpackedFloat.unpack .binary64 b) := by
  have hsign : Sign.ofBitVec (unpackSign b) = .positive := by
    rw [h]
    rfl
  unfold UnpackedFloat.unpack
  dsimp only
  split
  · split
    · exact hsign
    · trivial
  · split
    · split
      · exact hsign
      · exact hsign
    · exact hsign

theorem nonNegative_unpack_pack {u : UnpackedFloat} (h : NonNegative u) :
    NonNegative (Float.Model.pack u).unpack := by
  cases u with
  | notANumber => exact nonNegative_unpack rfl
  | infinity s =>
    cases h
    exact nonNegative_unpack (unpackSign_packComponents _ _ _)
  | zero s =>
    cases h
    exact nonNegative_unpack (unpackSign_packComponents _ _ _)
  | finite s m e hm =>
    cases h
    refine nonNegative_unpack ?_
    show unpackSign (UnpackedFloat.pack .binary64 _) = _
    unfold UnpackedFloat.pack
    dsimp only
    split
    · exact unpackSign_packComponents _ _ _
    · split <;> exact unpackSign_packComponents _ _ _

/-! ## Arithmetic -/

theorem nonNegative_roundWithAccuracy (m : Nat) (e : Int) (a : Accuracy) :
    NonNegative (roundWithAccuracy .binary64 .positive m e a) := by
  unfold roundWithAccuracy
  dsimp only
  split <;> rfl

theorem nonNegative_mul {u v : UnpackedFloat} (hu : NonNegative u) (hv : NonNegative v) :
    NonNegative (UnpackedFloat.mul .binary64 u v) := by
  cases u <;> cases v <;> cases hu <;> cases hv <;>
    first
    | exact nonNegative_roundWithAccuracy _ _ _
    | trivial

theorem nonNegative_div {u v : UnpackedFloat} (hu : NonNegative u) (hv : NonNegative v) :
    NonNegative (UnpackedFloat.div .binary64 u v) := by
  cases u <;> cases v <;> cases hu <;> cases hv <;>
    first
    | exact nonNegative_roundWithAccuracy _ _ _
    | trivial

theorem nonNegative_ofNat (n : Nat) : NonNegative (UnpackedFloat.ofInt .binary64 n) := by
  unfold UnpackedFloat.ofInt UnpackedFloat.normalize
  split
  · next h =>
    have := Int.compare_eq_lt.1 h
    omega
  · rfl
  · exact nonNegative_roundWithAccuracy _ _ _

theorem nonNegative_ofScientific (m : Nat) (e : Int) :
    NonNegative (UnpackedFloat.ofScientific .binary64 m e) := by
  unfold UnpackedFloat.ofScientific
  split
  · rfl
  · split
    · rfl
    · split
      · rfl
      · split
        · exact nonNegative_mul rfl rfl
        · exact nonNegative_div rfl rfl

/-! ## Numerals -/

/-- A finite number that is not negative is at least zero. -/
theorem zero_le_of_nonNegative {x : Float} (hfinite : x.isFinite)
    (h : NonNegative x.toModel.unpack) : 0 ≤ x := by
  have hzero : (0 : Float).toModel.unpack = .zero .positive := rfl
  show decide ((0 : Float).toModel.unpack.le x.toModel.unpack = true) = true
  rw [hzero, decide_eq_true_iff]
  change x.toModel.unpack.isFinite = true at hfinite
  generalize x.toModel.unpack = u at h hfinite
  cases u with
  | notANumber | infinity => cases hfinite
  | zero s => rfl
  | finite s m e hm =>
    cases h
    rfl

theorem nonNegative_powerOfTen {k : Nat} (h : k < Float.exactlyRepresentablePowersOfTen.size) :
    NonNegative (Float.exactlyRepresentablePowersOfTen[k]).toModel.unpack := by
  refine nonNegative_unpack ?_
  revert k
  decide

theorem nonNegative_toFloat (n : UInt64) : NonNegative n.toFloat.toModel.unpack :=
  nonNegative_unpack_pack (nonNegative_ofNat n.toNat)

theorem nonNegative_float (m : Nat) (s : Bool) (e : Nat) :
    NonNegative (Float.ofScientific m s e).toModel.unpack := by
  unfold Float.ofScientific
  split
  · split
    · exact nonNegative_unpack_pack (nonNegative_div (nonNegative_toFloat _)
        (nonNegative_powerOfTen _))
    · exact nonNegative_unpack_pack (nonNegative_mul (nonNegative_toFloat _)
        (nonNegative_powerOfTen _))
  · exact nonNegative_unpack_pack (nonNegative_ofScientific _ _)

theorem Numeral.value_nonneg {n : Numeral} (h : n.value.isFinite) : 0 ≤ n.value :=
  zero_le_of_nonNegative h (nonNegative_float _ _ _)

end Spreadsheet
