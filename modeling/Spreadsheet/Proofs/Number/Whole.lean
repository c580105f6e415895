import Spreadsheet.Number.Display
import Spreadsheet.Proofs.Number.Magnitude
import Spreadsheet.Proofs.Number.Order

/-!
# Whole numbers as doubles

A whole number below `2 ^ 53` fills the mantissa of a double without rounding (`ofScientific_eq`),
and a double that is a small whole number has no other mantissa and exponent
(`IsWhole.unpack_eq`). So it is the double nearest to its integer (`IsWhole.nearestToInt_eq`), two
of them are equal only if their integers are (`IsWhole.beq_iff`), and what is displayed are the
digits of the integer (`numberText?_of_isWhole`).
-/

open Float.Model Float.Model.UnpackedFloat

namespace Spreadsheet

/-! ## Numbers of full precision -/

/-- The mantissa and the exponent of a finite number that is not too small for all its bits. -/
structure IsNormal (m : Nat) (e : Int) : Prop where
  le_mantissa : 2 ^ 52 ≤ m
  mantissa_lt : m < 2 ^ 53
  le_exponent : -1074 ≤ e
  exponent_le : e ≤ 971

variable {s : Sign} {m n : Nat} {e : Int}

theorem IsNormal.pos (h : IsNormal m e) : 0 < m :=
  Nat.lt_of_lt_of_le (by decide) h.le_mantissa

theorem IsNormal.log2_eq (h : IsNormal m e) : m.log2 = 52 :=
  (Nat.log2_eq_iff (Nat.ne_of_gt h.pos)).2 ⟨h.le_mantissa, h.mantissa_lt⟩

theorem pack_of_isNormal (h : IsNormal m e) (hm : 0 < m) :
    UnpackedFloat.pack .binary64 (.finite s m e hm) =
      packComponents .binary64 s (BitVec.ofNat _ (e + 1075).toNat) (BitVec.ofNat _ m) := by
  have hle := h.le_exponent
  have hge := h.exponent_le
  have hbiased : (e + 1023 + 52).toNat = (e + 1075).toNat := by omega
  unfold UnpackedFloat.pack
  dsimp only
  split
  · next hlarge =>
    have hlarge : 2048 ≤ (e + 1023 + 52).toNat + 1 := hlarge
    omega
  · split
    · exact congrArg (fun b => packComponents .binary64 s (BitVec.ofNat _ b) _) hbiased
    · next hlog =>
      have hlog : m.log2 + 1 ≠ 53 := hlog
      rw [h.log2_eq] at hlog
      omega

/-- Packing loses nothing of a number of full precision. -/
theorem unpack_pack_of_isNormal (h : IsNormal m e) (hm : 0 < m) :
    (Float.Model.pack (.finite s m e hm)).unpack = .finite s m e hm := by
  have hle := h.le_exponent
  have hge := h.exponent_le
  show UnpackedFloat.unpack .binary64 (UnpackedFloat.pack .binary64 (.finite s m e hm)) = _
  rw [pack_of_isNormal h]
  unfold UnpackedFloat.unpack
  simp only [unpackExponent_packComponents, unpackMantissa_packComponents,
    unpackSign_packComponents, Sign.ofBitVec_toBitVec]
  have hexponent : (BitVec.ofNat Format.binary64.exponentBits (e + 1075).toNat).toNat =
      (e + 1075).toNat := Nat.mod_eq_of_lt (show (e + 1075).toNat < 2 ^ 11 by omega)
  have hmantissa :
      (1#1 ++ BitVec.ofNat Format.binary64.mantissaBitsWithoutImplicit m).toNat = m := by
    have hmod : (BitVec.ofNat Format.binary64.mantissaBitsWithoutImplicit m).toNat = m % 2 ^ 52 :=
      rfl
    have hle := h.le_mantissa
    have hlt := h.mantissa_lt
    rw [toNat_implicit_append, hmod]
    omega
  rw [if_neg, if_neg]
  · rw [UnpackedFloat.finite.injEq]
    refine ⟨rfl, hmantissa, ?_⟩
    rw [hexponent]
    show ((e + 1075).toNat : Int) - 1075 = e
    omega
  · intro hzero
    rw [hzero] at hexponent
    have hexponent : 0 = (e + 1075).toNat := hexponent
    omega
  · intro hones
    rw [hones] at hexponent
    have hexponent : 2047 = (e + 1075).toNat := hexponent
    omega

/-! ## Rounding what needs none -/

theorem shiftRight_mul_two_pow (m k : Nat) :
    (⟨m * 2 ^ k, false, false⟩ : ExtendedMantissa) >>> k = ⟨m, false, false⟩ := by
  induction k generalizing m with
  | zero =>
    rw [Nat.pow_zero, Nat.mul_one]
    rfl
  | succ k ih =>
    have hsplit : m * 2 ^ (k + 1) = m * 2 * 2 ^ k := by rw [Nat.pow_succ', Nat.mul_assoc]
    show ((⟨m * 2 ^ (k + 1), false, false⟩ : ExtendedMantissa) >>> k).shiftRightOne = _
    rw [hsplit, ih (m * 2)]
    simp [ExtendedMantissa.shiftRightOne]

/-- Zeros at the end of a mantissa are cut off without loss. -/
theorem roundWithAccuracy_mul_two_pow (h : IsNormal m e) (k : Nat) {f : Int} (hf : f + k = e)
    (hle : -1074 ≤ f) : roundWithAccuracy .binary64 s (m * 2 ^ k) f .exact =
      .finite s m e h.pos := by
  have hlog : (m * 2 ^ k).log2 - 52 = k := by
    rw [← Nat.shiftLeft_eq, log2_shiftLeft_of_pos h.pos, h.log2_eq]
    omega
  have hrounded : (ExtendedMantissa.mk m false false).roundedMantissa = m := rfl
  have hmantissa (m : Nat) : ExtendedMantissa.ofMantissaAndAccuracy m .exact = ⟨m, false, false⟩ :=
    rfl
  have hsecond := shiftRight_mul_two_pow m 0
  rw [Nat.pow_zero, Nat.mul_one] at hsecond
  simp only [roundWithAccuracy, shiftToTargetExponent_eq _ hle, hlog, hmantissa,
    shiftRight_mul_two_pow, hrounded, hf, shiftToTargetExponent_eq _ h.le_exponent, h.log2_eq,
    Nat.sub_self, hsecond]
  simp [Nat.ne_of_gt h.pos]

/-! ## Whole numbers -/

/-- How far a whole number is shifted to fill the mantissa. -/
def wholeShift (n : Nat) : Nat :=
  52 - n.log2

/-- A whole number that fills the mantissa, with a sign. -/
def wholeFloat (s : Sign) (n : Nat) (hn : 0 < n) : UnpackedFloat :=
  .finite s (n * 2 ^ wholeShift n) (-wholeShift n) (Nat.mul_pos hn (Nat.two_pow_pos _))

theorem isNormal_whole (hn : 0 < n) (hlt : n < 2 ^ 53) :
    IsNormal (n * 2 ^ wholeShift n) (-wholeShift n) := by
  have hlog : n.log2 < 53 := (Nat.log2_lt (Nat.ne_of_gt hn)).2 hlt
  have hlow := Nat.log2_self_le (Nat.ne_of_gt hn)
  have hhigh : n < 2 ^ (n.log2 + 1) := Nat.lt_log2_self
  have hshift : n.log2 + wholeShift n = 52 := by
    rw [wholeShift]
    omega
  refine ⟨?_, ?_, by omega, by omega⟩
  · rw [← hshift, Nat.pow_add]
    exact Nat.mul_le_mul_right _ hlow
  · rw [show 53 = n.log2 + 1 + wholeShift n by omega, Nat.pow_add]
    exact Nat.mul_lt_mul_of_pos_right hhigh (Nat.two_pow_pos _)

theorem unpack_pack_wholeFloat (s : Sign) (hn : 0 < n) (hlt : n < 2 ^ 53) :
    (Float.Model.pack (wholeFloat s n hn)).unpack = wholeFloat s n hn :=
  unpack_pack_of_isNormal (isNormal_whole hn hlt) _

theorem ofInt_eq (hn : 0 < n) (hlt : n < 2 ^ 53) :
    UnpackedFloat.ofInt .binary64 n = wholeFloat .positive n hn := by
  have hnormal := isNormal_whole hn hlt
  have hlog : n.log2 < 53 := (Nat.log2_lt (Nat.ne_of_gt hn)).2 hlt
  have htarget : Format.binary64.targetExponent (totalExponent n 0) =
      max ((n.log2 : Int) + 1 + 0 - 53) (-1074) := rfl
  have hshift : (0 - max ((n.log2 : Int) + 1 + 0 - 53) (-1074)).toNat = wholeShift n := by
    rw [wholeShift]
    omega
  have hexact := roundWithAccuracy_mul_two_pow (s := .positive) hnormal 0
    (Int.add_zero _) hnormal.le_exponent
  rw [Nat.pow_zero, Nat.mul_one] at hexact
  unfold UnpackedFloat.ofInt UnpackedFloat.normalize
  split
  · next hcompare =>
    have := Int.compare_eq_lt.1 hcompare
    omega
  · next hcompare =>
    have := Int.compare_eq_eq.1 hcompare
    omega
  · simp only [UnpackedFloat.round, decreaseExponent, Int.toNat_natCast, htarget, hshift,
      Nat.shiftLeft_eq]
    rw [Int.zero_sub]
    exact hexact

theorem unpack_toFloat (hn : 0 < n) (hlt : n < 2 ^ 53) :
    n.toUInt64.toFloat.toModel.unpack = wholeFloat .positive n hn := by
  have hcast : n.toUInt64.toNat = n := Nat.mod_eq_of_lt (Nat.lt_trans hlt (by decide))
  show (Float.Model.pack (UnpackedFloat.ofInt .binary64 n.toUInt64.toNat)).unpack = _
  rw [hcast, ofInt_eq hn hlt, unpack_pack_wholeFloat _ hn hlt]

/-- To multiply a whole number by one takes no rounding. -/
theorem mul_one_wholeFloat (hn : 0 < n) (hlt : n < 2 ^ 53) :
    UnpackedFloat.mul .binary64 (wholeFloat .positive n hn)
        (.finite .positive (2 ^ 52) (-52) (by decide)) =
      wholeFloat .positive n hn := by
  refine roundWithAccuracy_mul_two_pow (isNormal_whole hn hlt) 52 (by omega) ?_
  rw [wholeShift]
  omega

theorem ofScientific_eq (hn : 0 < n) (hlt : n < 2 ^ 53) :
    Float.ofScientific n false 0 = .ofModel (.pack (wholeFloat .positive n hn)) := by
  have hone : (1 : Float).toModel.unpack = .finite .positive (2 ^ 52) (-52) (by decide) := rfl
  have hproduct : Float.ofScientific n false 0 = n.toUInt64.toFloat * 1 := by
    rw [Float.ofScientific, dif_pos ⟨hlt, by decide⟩]
    rfl
  calc Float.ofScientific n false 0
      = .ofModel (.pack (UnpackedFloat.mul .binary64 n.toUInt64.toFloat.toModel.unpack
          (1 : Float).toModel.unpack)) := hproduct
    _ = .ofModel (.pack (wholeFloat .positive n hn)) := by
      rw [unpack_toFloat hn hlt, hone, mul_one_wholeFloat hn hlt]

/-! ## Doubles that are whole -/

/-- A number is the given integer, which is small enough to be shown as one. -/
structure IsWhole (x : Float) (n : Int) : Prop where
  eq : floatIntOrder x n = some .eq
  lt : n.natAbs < wholeDisplayLimit

/-- The sign of an integer that is not zero. -/
def signOf (n : Int) : Sign :=
  if n < 0 then .negative else .positive

variable {x y : Float} {i j : Int}

theorem IsWhole.natAbs_lt (h : IsWhole x i) : i.natAbs < 2 ^ 52 :=
  Nat.lt_trans h.lt (by decide)

theorem natAbs_apply (s : Sign) (m : Nat) : (s.apply m).natAbs = m := by
  cases s <;> simp [Sign.apply]

theorem sign_eq_of_apply_eq {k : Nat} (hm : 0 < m) (h : s.apply m = i * (2 ^ k : Nat)) :
    s = signOf i := by
  have hpos : (0 : Int) < (2 ^ k : Nat) := Int.natCast_pos.2 (Nat.two_pow_pos k)
  cases s with
  | negative =>
    have hvalue : -(m : Int) = i * (2 ^ k : Nat) := h
    have hi : i < 0 := by
      by_contra hi
      have := Int.mul_nonneg (Int.not_lt.1 hi) (Int.le_of_lt hpos)
      omega
    exact (if_pos hi).symm
  | positive =>
    have hvalue : (m : Int) = i * (2 ^ k : Nat) := h
    have hi : ¬ i < 0 := by
      intro hi
      have := Int.mul_neg_of_neg_of_pos hi hpos
      omega
    exact (if_neg hi).symm

/-- A double that has no places behind the point is not small. -/
theorem le_natAbs_of_exponent_nonneg {hm : 0 < m} (h : Rounded (.finite s m e hm)) (he : 0 ≤ e) :
    2 ^ 52 ≤ (s.apply m * (2 ^ e.toNat : Nat)).natAbs := by
  obtain ⟨-, -, hmin⟩ := h
  rw [Int.natAbs_mul, natAbs_apply, Int.natAbs_natCast]
  refine Nat.le_trans ?_ (Nat.le_mul_of_pos_right m (Nat.two_pow_pos _))
  by_contra hsmall
  have := hmin (Nat.not_le.1 hsmall)
  omega

/-- A whole double with places behind the point, all of them zero, fills its mantissa. -/
theorem eq_wholeFloat_of_exponent_neg {hm : 0 < m} (h : Rounded (.finite s m e hm)) (he : e < 0)
    (hvalue : s.apply m = i * (2 ^ (-e).toNat : Nat)) :
    ∃ hi : 0 < i.natAbs, UnpackedFloat.finite s m e hm = wholeFloat (signOf i) i.natAbs hi := by
  obtain ⟨hlt, hle, hmin⟩ := h
  have hmantissa : m = i.natAbs * 2 ^ (-e).toNat := by
    rw [← natAbs_apply s m, hvalue, Int.natAbs_mul, Int.natAbs_natCast]
  have hi : 0 < i.natAbs := Nat.pos_of_ne_zero fun hzero => by
    rw [hzero, Nat.zero_mul] at hmantissa
    omega
  have hge : 2 ^ (-e).toNat ≤ m := hmantissa ▸ Nat.le_mul_of_pos_left _ hi
  have hlarge : 2 ^ 52 ≤ m := by
    by_contra hsmall
    have hexponent := hmin (Nat.not_le.1 hsmall)
    have hpow : 2 ^ 53 ≤ 2 ^ (-e).toNat := Nat.pow_le_pow_right (by decide) (by omega)
    omega
  have hlog : m.log2 = 52 := (Nat.log2_eq_iff (Nat.ne_of_gt hm)).2 ⟨hlarge, hlt⟩
  have hshift : (-e).toNat = wholeShift i.natAbs := by
    rw [hmantissa, ← Nat.shiftLeft_eq, log2_shiftLeft_of_pos hi] at hlog
    rw [wholeShift]
    omega
  refine ⟨hi, ?_⟩
  rw [wholeFloat, UnpackedFloat.finite.injEq, ← hshift]
  exact ⟨sign_eq_of_apply_eq hm hvalue, hmantissa, by omega⟩

/-- A small whole number is a zero, or there is only one way to write it. -/
theorem IsWhole.unpack_eq (h : IsWhole x i) :
    i = 0 ∧ (∃ s, x.toModel.unpack = .zero s) ∨
      ∃ hi : 0 < i.natAbs, x.toModel.unpack = wholeFloat (signOf i) i.natAbs hi := by
  have hlt := h.natAbs_lt
  have heq := h.eq
  have hrounded : Rounded x.toModel.unpack := rounded_unpack _
  unfold floatIntOrder at heq
  generalize x.toModel.unpack = u at heq hrounded
  cases u with
  | notANumber => cases heq
  | infinity s => cases s <;> cases heq
  | zero s =>
    have hzero := Int.compare_eq_eq.1 (Option.some.inj heq)
    exact .inl ⟨hzero.symm, s, rfl⟩
  | finite s m e hm =>
    dsimp only at heq
    split at heq
    · next he =>
      have hlarge := le_natAbs_of_exponent_nonneg hrounded he
      have hvalue : s.apply m * (2 ^ e.toNat : Nat) = i :=
        Int.compare_eq_eq.1 (Option.some.inj heq)
      rw [hvalue] at hlarge
      omega
    · next he =>
      exact .inr (eq_wholeFloat_of_exponent_neg hrounded (Int.not_le.1 he)
        (Int.compare_eq_eq.1 (Option.some.inj heq)))

theorem ofModel_pack_unpack (x : Float) : .ofModel (.pack x.toModel.unpack) = x :=
  Float.ofBits_toBits x

theorem neg_ofModel_pack {u : UnpackedFloat} (h : (Float.Model.pack u).unpack = u) :
    -(Float.ofModel (.pack u)) = .ofModel (.pack u.neg) := by
  show Float.ofModel (.pack (Float.Model.pack u).unpack.neg) = _
  rw [h]

/-- The double nearest to a whole number is the number itself, if it is not a zero. -/
theorem IsWhole.nearestToInt_eq (h : IsWhole x i) (hi : i ≠ 0) : nearestToInt i = x := by
  have hlt : i.natAbs < 2 ^ 53 := Nat.lt_trans h.natAbs_lt (by decide)
  obtain ⟨hzero, -⟩ | ⟨hpos, hunpack⟩ := h.unpack_eq
  · exact (hi hzero).elim
  · rw [← ofModel_pack_unpack x, hunpack, nearestToInt, ofScientific_eq hpos hlt, signOf]
    split
    · exact neg_ofModel_pack (unpack_pack_wholeFloat _ hpos hlt)
    · rfl

/-! ## Equality -/

theorem eq_of_compare_finite {s t : Sign} {m n : Nat} {e f : Int} {hm : 0 < m} {hn : 0 < n}
    (h : (UnpackedFloat.finite s m e hm).compare (.finite t n f hn) = some .eq) :
    s = t ∧ m = n ∧ e = f := by
  have parts (h : (compare e f).then (compare m n) = .eq) : m = n ∧ e = f := by
    obtain ⟨he, hm⟩ := Ordering.then_eq_eq.1 h
    exact ⟨Nat.compare_eq_eq.1 hm, Int.compare_eq_eq.1 he⟩
  cases s <;> cases t
  · exact ⟨rfl, parts (Ordering.swap_eq_eq.1 (Option.some.inj h))⟩
  · cases h
  · cases h
  · exact ⟨rfl, parts (Option.some.inj h)⟩

theorem compare_finite_self (s : Sign) (m : Nat) (e : Int) (hm : 0 < m) :
    (UnpackedFloat.finite s m e hm).compare (.finite s m e hm) = some .eq := by
  have hself : (compare e e).then (compare m m) = .eq :=
    Ordering.then_eq_eq.2 ⟨Int.compare_eq_eq.2 rfl, Nat.compare_eq_eq.2 rfl⟩
  cases s
  · exact congrArg (some ∘ Ordering.swap) hself
  · exact congrArg some hself

theorem compare_zero_finite_ne (s t : Sign) (m : Nat) (e : Int) (hm : 0 < m) :
    (UnpackedFloat.zero s).compare (.finite t m e hm) ≠ some .eq ∧
      (UnpackedFloat.finite t m e hm).compare (.zero s) ≠ some .eq := by
  cases t <;> exact ⟨nofun, nofun⟩

theorem eq_of_signOf_eq (hsign : signOf i = signOf j) (habs : i.natAbs = j.natAbs) : i = j := by
  unfold signOf at hsign
  split at hsign <;> split at hsign
  · omega
  · cases hsign
  · cases hsign
  · omega

theorem compare_wholeFloat_iff (hi : 0 < i.natAbs) (hj : 0 < j.natAbs) :
    (wholeFloat (signOf i) i.natAbs hi).compare (wholeFloat (signOf j) j.natAbs hj) = some .eq ↔
      i = j := by
  constructor
  · intro h
    obtain ⟨hsign, hmantissa, hshift⟩ := eq_of_compare_finite h
    have hshift : wholeShift i.natAbs = wholeShift j.natAbs := by omega
    rw [hshift] at hmantissa
    exact eq_of_signOf_eq hsign (Nat.eq_of_mul_eq_mul_right (Nat.two_pow_pos _) hmantissa)
  · rintro rfl
    exact compare_finite_self ..

theorem IsWhole.beq_iff (hx : IsWhole x i) (hy : IsWhole y j) : (x == y) = true ↔ i = j := by
  rw [beq_iff_compare]
  obtain ⟨rfl, s, hs⟩ | ⟨hi, hunpack⟩ := hx.unpack_eq <;>
    obtain ⟨rfl, t, ht⟩ | ⟨hj, hunpack'⟩ := hy.unpack_eq
  · rw [hs, ht]
    exact ⟨fun _ => rfl, fun _ => rfl⟩
  · rw [hs, hunpack']
    exact ⟨fun h => ((compare_zero_finite_ne ..).1 h).elim, fun h => by omega⟩
  · rw [hunpack, ht]
    exact ⟨fun h => ((compare_zero_finite_ne ..).2 h).elim, fun h => by omega⟩
  · rw [hunpack, hunpack', compare_wholeFloat_iff]

/-! ## Display -/

theorem dyadicFraction_whole (n k : Nat) :
    ∃ den, 0 < den ∧ dyadicFraction (n * 2 ^ k) (-k) = (n * den, den) := by
  unfold dyadicFraction
  split
  · next hk =>
    obtain rfl : k = 0 := by omega
    exact ⟨1, by decide, by simp⟩
  · exact ⟨2 ^ k, Nat.two_pow_pos k, by simp⟩

theorem magnitudeText_whole (hlt : n < wholeDisplayLimit) {den : Nat} (hden : 0 < den) :
    magnitudeText (n * den) den = Nat.toDigits 10 n := by
  rw [magnitudeText, Nat.mul_mod_left, Nat.mul_div_cancel n hden,
    if_pos (by simpa using hlt)]

/-- The decimal digits of an integer behind its sign. -/
def signedDigits (i : Int) : List Char :=
  if i < 0 then '-' :: Nat.toDigits 10 i.natAbs else Nat.toDigits 10 i.natAbs

theorem numberText?_of_isWhole (h : IsWhole x i) :
    numberText? x = some (.ofChars (signedDigits i)) := by
  unfold numberText?
  obtain ⟨rfl, s, hs⟩ | ⟨hi, hunpack⟩ := h.unpack_eq
  · rw [hs]
    rfl
  · obtain ⟨den, hden, hfraction⟩ := dyadicFraction_whole i.natAbs (wholeShift i.natAbs)
    rw [hunpack]
    simp only [wholeFloat, hfraction, magnitudeText_whole h.lt hden]
    by_cases hneg : i < 0
    · simp only [signOf, signedDigits, if_pos hneg]
    · simp only [signOf, signedDigits, if_neg hneg]

end Spreadsheet
