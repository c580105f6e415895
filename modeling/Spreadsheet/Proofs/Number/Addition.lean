import Mathlib

/-!
# Addition of numbers

The sum of two numbers is rounded to the precision of a double. Rounding never makes a zero of
it, so a sum is the negative zero only if both of its terms are (`not_isNegZero_add`), and adding
a zero of either sign changes nothing but the negative zero (`add_of_beq_zero`).
-/

open Float.Model Float.Model.UnpackedFloat

namespace Spreadsheet

/-! ## Rounded numbers -/

/-- A number rounded to the precision of a double; its exponent may still be too large. -/
def Rounded : UnpackedFloat → Prop
  | .finite _ m e _ => m < 2 ^ 53 ∧ -1074 ≤ e ∧ (m < 2 ^ 52 → e = -1074)
  | _ => True

/-- The leading bit of a mantissa, which is not kept, is added in front. -/
theorem toNat_implicit_append (b : BitVec Format.binary64.mantissaBitsWithoutImplicit) :
    (1#1 ++ b).toNat = 2 ^ 52 + b.toNat := by
  rw [BitVec.toNat_append, ← Nat.shiftLeft_add_eq_or_of_lt b.isLt]
  rfl

theorem rounded_unpack (b : BitVec Format.binary64.numBits) :
    Rounded (UnpackedFloat.unpack .binary64 b) := by
  have hmantissa : (unpackMantissa b).toNat < 2 ^ 52 := (unpackMantissa b).isLt
  unfold UnpackedFloat.unpack
  dsimp only
  split
  · split <;> trivial
  · split
    · next hexponent =>
      split
      · trivial
      · rw [hexponent]
        exact ⟨Nat.lt_trans hmantissa (by decide), by decide, fun _ => rfl⟩
    · next hexponent =>
      have hpos : 0 < (unpackExponent b).toNat :=
        Nat.pos_of_ne_zero fun hzero => hexponent (BitVec.eq_of_toNat_eq hzero)
      refine ⟨?_, ?_, fun hsmall => ?_⟩
      · rw [toNat_implicit_append]
        omega
      · show (-1074 : Int) ≤ (unpackExponent b).toNat - 1075
        omega
      · rw [toNat_implicit_append] at hsmall
        omega

/-- Only a zero is kept as a zero. -/
theorem Rounded.eq_zero {u : UnpackedFloat} (hu : Rounded u) {s : Sign}
    (h : UnpackedFloat.unpack .binary64 (UnpackedFloat.pack .binary64 u) = .zero s) :
    u = .zero s := by
  cases u with
  | notANumber => cases h
  | infinity t => cases t <;> cases h
  | zero t => cases t <;> exact h
  | finite t m e hm =>
    obtain ⟨hlt, he, -⟩ := hu
    have hpack := (unpack_eq_zero_iff_of_valid valid_pack).1 h
    have hexponent := congrArg unpackExponent hpack
    have hmantissa := congrArg unpackMantissa hpack
    rw [packedZero, unpackExponent_packComponents] at hexponent
    rw [packedZero, unpackMantissa_packComponents] at hmantissa
    exfalso
    -- only a number below the least normal one gets the exponent of zero, and it keeps its mantissa
    unfold UnpackedFloat.pack at hexponent hmantissa
    dsimp only at hexponent hmantissa
    split at hexponent
    · rw [packedInfinity, unpackExponent_packComponents] at hexponent
      cases hexponent
    · next hfinite =>
      rw [if_neg hfinite] at hmantissa
      have hbiased : (e + 1023 + 52).toNat + 1 < 2048 := Nat.not_le.1 hfinite
      split at hexponent
      · rw [unpackExponent_packComponents] at hexponent
        have hzero : (e + 1023 + 52).toNat % 2048 = 0 := congrArg BitVec.toNat hexponent
        omega
      · next hsubnormal =>
        rw [if_neg hsubnormal, unpackMantissa_packComponents] at hmantissa
        have hzero : m % 2 ^ 52 = 0 := congrArg BitVec.toNat hmantissa
        have hlog : m.log2 + 1 ≠ 53 := hsubnormal
        have hlog' : m.log2 < 53 := (Nat.log2_lt (Nat.ne_of_gt hm)).2 hlt
        have hsmall : m < 2 ^ 52 := (Nat.log2_lt (Nat.ne_of_gt hm)).1 (by omega)
        omega

/-! ## Rounding -/

theorem mantissa_shiftRight (em : ExtendedMantissa) (k : Nat) :
    (em >>> k).mantissa = em.mantissa / 2 ^ k := by
  induction k with
  | zero => exact (Nat.div_one _).symm
  | succ k ih =>
    show (em >>> k).mantissa / 2 = _
    rw [ih, Nat.div_div_eq_div_mul, Nat.pow_succ]

theorem roundedMantissa_bounds (em : ExtendedMantissa) :
    em.mantissa ≤ em.roundedMantissa ∧ em.roundedMantissa ≤ em.mantissa + 1 := by
  obtain ⟨m, roundBit, stickyBit⟩ := em
  cases roundBit <;> cases stickyBit
  · exact ⟨Nat.le_refl m, Nat.le_succ m⟩
  · exact ⟨Nat.le_refl m, Nat.le_succ m⟩
  · show m ≤ m + m % 2 ∧ m + m % 2 ≤ m + 1
    omega
  · exact ⟨Nat.le_succ m, Nat.le_refl _⟩

theorem mantissa_ofMantissaAndAccuracy (m : Nat) (a : Accuracy) :
    (ExtendedMantissa.ofMantissaAndAccuracy m a).mantissa = m := by
  cases a with
  | exact => rfl
  | inexact o => cases o <;> rfl

/-- A mantissa is cut to 53 bits. -/
theorem shiftToTargetExponent_eq (m : Nat) {e : Int} (he : -1074 ≤ e) (a : Accuracy) :
    shiftToTargetExponent .binary64 m e a =
      (ExtendedMantissa.ofMantissaAndAccuracy m a >>> (m.log2 - 52), e + (m.log2 - 52 : Nat)) := by
  have hshift : (Format.binary64.targetExponent (totalExponent m e) - e).toNat = m.log2 - 52 := by
    show (max ((m.log2 : Int) + 1 + e - 53) (-1074) - e).toNat = _
    omega
  rw [shiftToTargetExponent, shiftToExponent, hshift]

theorem div_log2_bounds {m : Nat} (hm : 0 < m) :
    m / 2 ^ (m.log2 - 52) < 2 ^ 53 ∧
      (2 ^ 52 ≤ m / 2 ^ (m.log2 - 52) ∨ m.log2 - 52 = 0 ∧ m < 2 ^ 52) := by
  have hlow := Nat.log2_self_le (Nat.ne_of_gt hm)
  have hhigh : m < 2 ^ (m.log2 + 1) := Nat.lt_log2_self
  by_cases hlog : m.log2 < 52
  · have hlt := (Nat.log2_lt (Nat.ne_of_gt hm)).1 hlog
    have hzero : m.log2 - 52 = 0 := by omega
    rw [hzero, Nat.pow_zero, Nat.div_one]
    omega
  · have hsplit : m.log2 = 52 + (m.log2 - 52) := by omega
    constructor
    · refine Nat.div_lt_of_lt_mul ?_
      rwa [← Nat.pow_add, show m.log2 - 52 + 53 = m.log2 + 1 by omega]
    · left
      rw [Nat.le_div_iff_mul_le (Nat.two_pow_pos _), ← Nat.pow_add, ← hsplit]
      exact hlow

/-- A mantissa that rounding made one bit too long loses it again. -/
theorem shiftToTargetExponent_rounded {r : Nat} {e : Int} (hpos : 0 < r) (hr : r ≤ 2 ^ 53)
    (he : -1074 ≤ e) (hmin : r < 2 ^ 52 → e = -1074) :
    let p := shiftToTargetExponent .binary64 r e .exact
    0 < p.1.mantissa ∧ p.1.mantissa < 2 ^ 53 ∧ -1074 ≤ p.2 ∧
      (p.1.mantissa < 2 ^ 52 → p.2 = -1074) := by
  rw [shiftToTargetExponent_eq r he]
  simp only [mantissa_shiftRight, mantissa_ofMantissaAndAccuracy]
  rcases Nat.lt_or_eq_of_le hr with hlt | rfl
  · have hlog : r.log2 - 52 = 0 := by
      have := (Nat.log2_lt (Nat.ne_of_gt hpos)).2 hlt
      omega
    rw [hlog, Nat.pow_zero, Nat.div_one]
    exact ⟨hpos, hlt, by omega, fun h => by have := hmin h; omega⟩
  · rw [Nat.log2_two_pow]
    omega

/-- Rounding neither drops a number nor leaves too many bits. -/
theorem roundWithAccuracy_eq_finite (s : Sign) {m : Nat} {e : Int} (hm : 0 < m) (he : -1074 ≤ e)
    (hmin : m < 2 ^ 52 → e = -1074) (a : Accuracy) : ∃ m' e' h,
      roundWithAccuracy .binary64 s m e a = .finite s m' e' h ∧ Rounded (.finite s m' e' h) := by
  obtain ⟨hlt, hge⟩ := div_log2_bounds hm
  obtain ⟨hr, hr'⟩ := roundedMantissa_bounds
    (ExtendedMantissa.ofMantissaAndAccuracy m a >>> (m.log2 - 52))
  rw [mantissa_shiftRight, mantissa_ofMantissaAndAccuracy] at hr hr'
  have hpos : 0 < m / 2 ^ (m.log2 - 52) := by
    rcases hge with hge | ⟨hzero, -⟩
    · omega
    · rwa [hzero, Nat.pow_zero, Nat.div_one]
  obtain ⟨hpos', hrounded⟩ := shiftToTargetExponent_rounded (Nat.lt_of_lt_of_le hpos hr) (by omega)
    (show -1074 ≤ e + (m.log2 - 52 : Nat) by omega) fun hsmall => by
      have := hge.resolve_left (by omega)
      have := hmin this.2
      omega
  refine ⟨_, _, hpos', ?_, hrounded⟩
  simp only [roundWithAccuracy, shiftToTargetExponent_eq m he]
  exact dif_neg (Nat.ne_of_gt hpos')

theorem round_eq_finite (s : Sign) {m : Nat} {e : Int} (hm : 0 < m) (he : -1074 ≤ e) :
    ∃ m' e' h, UnpackedFloat.round .binary64 s m e = .finite s m' e' h ∧
      Rounded (.finite s m' e' h) := by
  have htarget : Format.binary64.targetExponent (totalExponent m e) =
      max ((m.log2 : Int) + 1 + e - 53) (-1074) := rfl
  obtain ⟨k, hk⟩ : ∃ k, k = (e - max ((m.log2 : Int) + 1 + e - 53) (-1074)).toNat := ⟨_, rfl⟩
  simp only [UnpackedFloat.round, decreaseExponent, htarget, ← hk]
  rw [Nat.shiftLeft_eq]
  refine roundWithAccuracy_eq_finite s (Nat.mul_pos hm (Nat.two_pow_pos k)) (by omega) ?_ .exact
  intro hsmall
  have hlow := Nat.log2_self_le (Nat.ne_of_gt hm)
  have hlog : m.log2 + k < 52 := by
    rw [← Nat.pow_lt_pow_iff_right (show 1 < 2 by decide), Nat.pow_add]
    exact Nat.lt_of_le_of_lt (Nat.mul_le_mul_right _ hlow) hsmall
  omega

/-! ## Addition -/

theorem normalize_spec (m : Int) {e : Int} (he : -1074 ≤ e) :
    Rounded (UnpackedFloat.normalize .binary64 m e .positive) ∧
      UnpackedFloat.normalize .binary64 m e .positive ≠ .zero .negative := by
  unfold UnpackedFloat.normalize
  split
  · next hlt =>
    have hm : 0 < (-m).toNat := by
      have := Int.compare_eq_lt.1 hlt
      omega
    obtain ⟨m', e', h, heq, hrounded⟩ := round_eq_finite .negative hm he
    rw [heq]
    exact ⟨hrounded, nofun⟩
  · exact ⟨trivial, nofun⟩
  · next hgt =>
    have hm : 0 < m.toNat := by
      have := Int.compare_eq_gt.1 hgt
      omega
    obtain ⟨m', e', h, heq, hrounded⟩ := round_eq_finite .positive hm he
    rw [heq]
    exact ⟨hrounded, nofun⟩

theorem Rounded.add {u v : UnpackedFloat} (hu : Rounded u) (hv : Rounded v) :
    Rounded (UnpackedFloat.add .binary64 u v) ∧
      (UnpackedFloat.add .binary64 u v = .zero .negative → u = .zero .negative) := by
  cases u with
  | notANumber => exact ⟨trivial, nofun⟩
  | infinity s =>
    cases v with
    | infinity t => cases s <;> cases t <;> exact ⟨trivial, nofun⟩
    | notANumber | zero | finite => exact ⟨trivial, nofun⟩
  | zero s =>
    cases v with
    | zero t =>
      cases s with
      | negative => exact ⟨by cases t <;> trivial, fun _ => rfl⟩
      | positive => cases t <;> exact ⟨trivial, nofun⟩
    | notANumber | infinity => exact ⟨trivial, nofun⟩
    | finite => exact ⟨hv, nofun⟩
  | finite s m e hm =>
    cases v with
    | notANumber | infinity => exact ⟨trivial, nofun⟩
    | zero => exact ⟨hu, nofun⟩
    | finite t n f hn =>
      obtain ⟨-, he, -⟩ := hu
      obtain ⟨-, hf, -⟩ := hv
      obtain ⟨hrounded, hne⟩ := normalize_spec
        (s.apply (decreaseExponent m e (min e f)).1 + t.apply (decreaseExponent n f (min e f)).1)
        (show -1074 ≤ min e f by omega)
      exact ⟨hrounded, fun h => (hne h).elim⟩

/-! ## The negative zero -/

/-- The zero with a minus sign. -/
def IsNegZero (x : Float) : Prop :=
  x.toModel.unpack = .zero .negative

variable {x : Float}

theorem not_isNegZero_zero : ¬ IsNegZero 0 :=
  nofun

theorem not_isNegZero_add (h : ¬ IsNegZero x) (y : Float) : ¬ IsNegZero (x + y) := by
  intro hsum
  obtain ⟨hrounded, hzero⟩ := (rounded_unpack x.toModel.toBits.toBitVec).add
    (rounded_unpack y.toModel.toBits.toBitVec)
  exact h (hzero (hrounded.eq_zero hsum))

theorem unpack_of_beq_zero (h : (x == 0) = true) : ∃ s, x.toModel.unpack = .zero s := by
  have hcompare : (x.toModel.unpack.compare (.zero .positive) == some .eq) = true := h
  generalize x.toModel.unpack = u at hcompare
  cases u with
  | zero s => exact ⟨s, rfl⟩
  | notANumber => cases hcompare
  | infinity s | finite s => cases s <;> cases hcompare

theorem add_eq_of_unpack {y z : Float} (h : UnpackedFloat.add .binary64 x.toModel.unpack
    y.toModel.unpack = z.toModel.unpack) : x + y = z := by
  calc x + y = .ofModel (.pack (UnpackedFloat.add .binary64 x.toModel.unpack y.toModel.unpack)) :=
        rfl
    _ = .ofModel (.pack z.toModel.unpack) := by rw [h]
    _ = z := Float.ofBits_toBits z

/-- Adding a zero of either sign changes only the negative zero. -/
theorem add_of_beq_zero {y : Float} (h : ¬ IsNegZero x) (hy : (y == 0) = true) : x + y = x := by
  obtain ⟨s, hy⟩ := unpack_of_beq_zero hy
  refine add_eq_of_unpack ?_
  unfold IsNegZero at h
  rw [hy]
  generalize x.toModel.unpack = u at h
  cases u with
  | notANumber | infinity | finite => rfl
  | zero t =>
    cases t with
    | negative => exact (h rfl).elim
    | positive => cases s <;> rfl

theorem add_zero_of_not_isNegZero (h : ¬ IsNegZero x) : x + 0 = x :=
  add_of_beq_zero h (by decide)

theorem zero_add_of_not_isNegZero (h : ¬ IsNegZero x) : 0 + x = x := by
  refine add_eq_of_unpack ?_
  show UnpackedFloat.add .binary64 (.zero .positive) x.toModel.unpack = x.toModel.unpack
  unfold IsNegZero at h
  generalize x.toModel.unpack = u at h
  cases u with
  | notANumber | infinity | finite => rfl
  | zero t =>
    cases t with
    | negative => exact (h rfl).elim
    | positive => rfl

end Spreadsheet
