import Spreadsheet.Number.Order
import Spreadsheet.Proofs.Number.Addition

/-!
# Numbers that are not too large

A number is finite exactly if its exponent is at most `971` (`isFinite_iff`). Changing the sign
makes no difference to that (`isFinite_neg`, `isFinite_of_neg`). Rounding raises the exponent by the
bits that are cut off and at most one more (`exponentAtMost_roundWithAccuracy`), so a count below
`2 ^ 256` is not infinite as a number (`isInf_nearestToInt`).
-/

open Float.Model Float.Model.UnpackedFloat

namespace Spreadsheet

/-- A zero, or a finite number whose exponent is at most the given one. -/
def ExponentAtMost (k : Int) : UnpackedFloat → Prop
  | .notANumber | .infinity _ => False
  | .zero _ => True
  | .finite _ _ e _ => e ≤ k

variable {k : Int} {u v : UnpackedFloat}

theorem ExponentAtMost.mono {l : Int} (h : ExponentAtMost k u) (hkl : k ≤ l) :
    ExponentAtMost l u := by
  cases u with
  | notANumber | infinity => exact h.elim
  | zero => trivial
  | finite s m e hm => exact Int.le_trans h hkl

/-! ## Packing -/

theorem exponentAtMost_unpack {b : BitVec Format.binary64.numBits} (hk : -1074 ≤ k)
    (hk' : k ≤ 971) (h : (unpackExponent b).toNat ≤ k + 1075) :
    ExponentAtMost k (UnpackedFloat.unpack .binary64 b) := by
  unfold UnpackedFloat.unpack
  dsimp only
  split
  · next hones =>
    rw [hones] at h
    have hvalue : ((2047 : Nat) : Int) ≤ k + 1075 := h
    omega
  · split
    · next hzeros =>
      split
      · trivial
      · rw [hzeros]
        exact hk
    · show ((unpackExponent b).toNat : Int) - 1075 ≤ k
      omega

theorem exponentAtMost_unpack_pack (hk : -1074 ≤ k) (hk' : k ≤ 971) (h : ExponentAtMost k u) :
    ExponentAtMost k (Float.Model.pack u).unpack := by
  refine exponentAtMost_unpack hk hk' ?_
  show ((unpackExponent (UnpackedFloat.pack .binary64 u)).toNat : Int) ≤ _
  cases u with
  | notANumber | infinity => exact h.elim
  | zero s =>
    rw [UnpackedFloat.pack, packedZero, unpackExponent_packComponents]
    show (0 : Int) ≤ _
    omega
  | finite s m e hm =>
    have he : e ≤ k := h
    unfold UnpackedFloat.pack
    dsimp only
    split
    · next hlarge =>
      have hlarge : 2048 ≤ (e + 1023 + 52).toNat + 1 := hlarge
      omega
    · split
      · rw [unpackExponent_packComponents]
        show (((e + 1023 + 52).toNat % 2048 : Nat) : Int) ≤ _
        omega
      · rw [unpackExponent_packComponents]
        show (0 : Int) ≤ _
        omega

theorem exponentAtMost_of_isFinite {b : BitVec Format.binary64.numBits}
    (h : (UnpackedFloat.unpack .binary64 b).isFinite) :
    ExponentAtMost 971 (UnpackedFloat.unpack .binary64 b) := by
  refine exponentAtMost_unpack (by decide) (by decide) ?_
  by_contra hlarge
  have hlt : (unpackExponent b).toNat < 2048 := (unpackExponent b).isLt
  have hones : unpackExponent b = -BitVec.ofNat Format.binary64.exponentBits 1 := by
    refine BitVec.eq_of_toNat_eq ?_
    show _ = 2047
    omega
  unfold UnpackedFloat.unpack at h
  dsimp only at h
  rw [if_pos hones] at h
  split at h <;> cases h

theorem isFinite_iff {x : Float} : x.isFinite ↔ ExponentAtMost 971 x.toModel.unpack := by
  refine ⟨exponentAtMost_of_isFinite, fun h => ?_⟩
  show x.toModel.unpack.isFinite = true
  revert h
  cases x.toModel.unpack with
  | notANumber | infinity => exact False.elim
  | zero | finite => exact fun _ => rfl

theorem isFinite_neg {x : Float} (h : x.isFinite) : (-x).isFinite := by
  refine isFinite_iff.2 (exponentAtMost_unpack_pack (by decide) (by decide) ?_)
  have h := isFinite_iff.1 h
  revert h
  cases x.toModel.unpack with
  | notANumber | infinity | zero | finite => exact id

theorem isFinite_of_neg {x : Float} (h : (-x).isFinite) : x.isFinite := by
  change (Float.Model.pack x.toModel.unpack.neg).unpack.isFinite = true at h
  show x.toModel.unpack.isFinite = true
  generalize x.toModel.unpack = u at h ⊢
  cases u with
  | notANumber => exact h
  | infinity s => cases s <;> exact h
  | zero | finite => rfl

/-! ## Rounding -/

/-- The exponent after a mantissa was cut to 53 bits. -/
theorem snd_shiftToTargetExponent (m : Nat) (e : Int) (a : Accuracy) :
    (shiftToTargetExponent .binary64 m e a).2 = max e (max (m.log2 + e - 52) (-1074)) := by
  show e + ((max ((m.log2 : Int) + 1 + e - 53) (-1074) - e).toNat : Int) = _
  omega

theorem mantissa_shiftToTargetExponent_lt (m : Nat) (e : Int) (a : Accuracy) :
    (shiftToTargetExponent .binary64 m e a).1.mantissa < 2 ^ 53 := by
  show (ExtendedMantissa.ofMantissaAndAccuracy m a >>>
    (max ((m.log2 : Int) + 1 + e - 53) (-1074) - e).toNat).mantissa < _
  rw [mantissa_shiftRight, mantissa_ofMantissaAndAccuracy]
  refine Nat.div_lt_of_lt_mul (Nat.lt_of_lt_of_le Nat.lt_log2_self ?_)
  rw [← Nat.pow_add]
  exact Nat.pow_le_pow_right (by decide) (by omega)

/-- Rounding can make a mantissa one bit longer, which is cut off in turn. -/
theorem exponentAtMost_roundWithAccuracy {m : Nat} {e : Int} (s : Sign) (a : Accuracy)
    (hmin : -1074 < k) (he : e < k) (hm : m.log2 + e - 52 < k) :
    ExponentAtMost k (roundWithAccuracy .binary64 s m e a) := by
  unfold roundWithAccuracy
  have hfirst := snd_shiftToTargetExponent m e a
  have hlt := mantissa_shiftToTargetExponent_lt m e a
  obtain ⟨-, hrounded⟩ := roundedMantissa_bounds (shiftToTargetExponent .binary64 m e a).1
  have hsecond := snd_shiftToTargetExponent
    (shiftToTargetExponent .binary64 m e a).1.roundedMantissa
    (shiftToTargetExponent .binary64 m e a).2 .exact
  generalize shiftToTargetExponent .binary64 m e a = first at *
  have hlog : first.1.roundedMantissa.log2 ≤ 53 := by
    have hle : first.1.roundedMantissa ≤ 2 ^ 53 := by omega
    rw [Nat.log2_eq_log_two, ← Nat.log_pow Nat.one_lt_two 53]
    exact Nat.log_mono_right hle
  dsimp only
  split
  · trivial
  · show (shiftToTargetExponent .binary64 first.1.roundedMantissa first.2 .exact).2 ≤ k
    omega

/-! ## Counts -/

theorem log2_shiftLeft_of_pos {m : Nat} (hm : 0 < m) (i : Nat) : (m <<< i).log2 = m.log2 + i := by
  rw [Nat.shiftLeft_eq, Nat.log2_eq_iff (Nat.ne_of_gt (Nat.mul_pos hm (Nat.two_pow_pos i)))]
  have hlow := Nat.log2_self_le (Nat.ne_of_gt hm)
  have hhigh : m < 2 ^ (m.log2 + 1) := Nat.lt_log2_self
  rw [Nat.add_right_comm, Nat.pow_add, Nat.pow_add _ _ i]
  exact ⟨Nat.mul_le_mul_right _ hlow, Nat.mul_lt_mul_of_pos_right hhigh (Nat.two_pow_pos i)⟩

theorem exponentAtMost_ofInt {m : Nat} (hm : m < 2 ^ 53) :
    ExponentAtMost 1 (UnpackedFloat.ofInt .binary64 m) := by
  unfold UnpackedFloat.ofInt UnpackedFloat.normalize
  split
  · next hlt =>
    have := Int.compare_eq_lt.1 hlt
    omega
  · trivial
  · next hgt =>
    have hpos : 0 < m := by
      have := Int.compare_eq_gt.1 hgt
      omega
    have hlog : m.log2 < 53 := (Nat.log2_lt (Nat.ne_of_gt hpos)).2 hm
    unfold UnpackedFloat.round decreaseExponent
    dsimp only [Int.toNat_natCast]
    refine exponentAtMost_roundWithAccuracy _ _ (by decide) (by omega) ?_
    rw [log2_shiftLeft_of_pos hpos]
    omega

theorem exponentAtMost_mul {i j : Int} (hmin : -1128 < i + j) (hu : Rounded u)
    (hv : Rounded v) (hui : ExponentAtMost i u) (hvj : ExponentAtMost j v) :
    ExponentAtMost (i + j + 54) (UnpackedFloat.mul .binary64 u v) := by
  cases u with
  | notANumber | infinity => exact hui.elim
  | zero => cases v <;> first | exact hvj.elim | trivial
  | finite s m e hm =>
    cases v with
    | notANumber | infinity => exact hvj.elim
    | zero => trivial
    | finite t n f hn =>
      have he : e ≤ i := hui
      have hf : f ≤ j := hvj
      have hlog : (m * n).log2 < 106 := by
        rw [Nat.log2_lt (Nat.ne_of_gt (Nat.mul_pos hm hn))]
        calc m * n < 2 ^ 53 * 2 ^ 53 := Nat.mul_lt_mul'' hu.1 hv.1
          _ = 2 ^ 106 := rfl
      exact exponentAtMost_roundWithAccuracy _ _ (by omega) (by omega) (by omega)

theorem exponentAtMost_ofScientific {m : Nat} (hm : m < 2 ^ 256) :
    ExponentAtMost 971 (UnpackedFloat.ofScientific .binary64 m 0) := by
  unfold UnpackedFloat.ofScientific
  split
  · trivial
  · next hne =>
    have hpos : 0 < m := Nat.pos_of_ne_zero hne
    have hlog : m.log2 < 256 := (Nat.log2_lt hne).2 hm
    have hbits : (2 : Int) ^ Format.binary64.exponentBits = 2048 := rfl
    rw [if_neg (by decide), if_neg (by omega), if_pos (Int.le_refl 0)]
    have hproduct : (m <<< Format.binary64.mantissaBits * 10 ^ Int.toNat 0).log2 = m.log2 + 53 :=
      (congrArg Nat.log2 (Nat.mul_one _)).trans (log2_shiftLeft_of_pos hpos 53)
    unfold UnpackedFloat.mul
    dsimp only
    generalize m <<< Format.binary64.mantissaBits * 10 ^ Int.toNat 0 = p at hproduct ⊢
    refine exponentAtMost_roundWithAccuracy _ _ (by decide) (by decide) ?_
    show (p.log2 : Int) + -53 - 52 < 971
    omega

theorem isFinite_ofScientific {m : Nat} (hm : m < 2 ^ 256) :
    (Float.ofScientific m false 0).isFinite := by
  refine isFinite_iff.2 ?_
  unfold Float.ofScientific
  split
  · next h =>
    have hsmall : m.toUInt64.toNat < 2 ^ 53 := Nat.lt_of_le_of_lt (Nat.mod_le m _) h.1
    have hcount := exponentAtMost_unpack_pack (by decide) (by decide) (exponentAtMost_ofInt hsmall)
    have hone : ExponentAtMost (-52) (1 : Float).toModel.unpack := Int.le_refl _
    have hproduct :=
      exponentAtMost_mul (by decide) (rounded_unpack _) (rounded_unpack _) hcount hone
    exact exponentAtMost_unpack_pack (by decide) (by decide) (hproduct.mono (by decide))
  · exact exponentAtMost_unpack_pack (by decide) (by decide) (exponentAtMost_ofScientific hm)

theorem isInf_eq_false {x : Float} (h : x.isFinite) : x.isInf = false := by
  have h := isFinite_iff.1 h
  show x.toModel.unpack.isInf = false
  revert h
  cases x.toModel.unpack with
  | notANumber | infinity => exact False.elim
  | zero | finite => exact fun _ => rfl

/-- A count below `2 ^ 256` is far from infinite as a number. -/
theorem isInf_nearestToInt {n : Int} (hn : 0 ≤ n) (hlt : n < 2 ^ 256) :
    (nearestToInt n).isInf = false := by
  rw [nearestToInt, if_neg (Int.not_lt.2 hn)]
  exact isInf_eq_false (isFinite_ofScientific (by omega))

end Spreadsheet
