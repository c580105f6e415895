import Spreadsheet.Text.Upper

/-!
# Upper case and ASCII

Upper-casing undoes lower-casing of ASCII letters (`upper_lowerAscii`). A character beyond ASCII
whose upper case is ASCII is one of the ten `lettersBeyondAscii`.
-/

namespace Spreadsheet.Text

/-- A property of all ASCII characters, checked one by one. -/
theorem forall_ascii {P : Char → Prop} (h : ∀ n < 128, P (Char.ofNat n)) {c : Char}
    (hc : c.toNat < 128) : P c := by
  have hn := h c.toNat hc
  rwa [Char.ofNat_toNat] at hn

/-! ## Lower case -/

/-- The same text, with its ASCII letters in lower case. -/
def lowerAscii (t : Text) : Text :=
  t.map fun
    | .char c => .char c.toLower
    | .surrogate n => .surrogate n

theorem upperPoint_toLower (c : Char) : upperPoint (.char c.toLower) = upperPoint (.char c) := by
  by_cases hc : c.toNat < 128
  · exact forall_ascii (P := fun c => upperPoint (.char c.toLower) = upperPoint (.char c))
      (by decide) hc
  · have hlower : c.toLower = c := by
      refine dif_neg ?_
      rintro ⟨-, hhigh⟩
      exact hc (Nat.lt_of_le_of_lt (show c.toNat ≤ 90 from hhigh) (by decide))
    rw [hlower]

theorem upper_lowerAscii (t : Text) : upper t.lowerAscii = upper t := by
  induction t with
  | nil => rfl
  | cons c t ih =>
    rw [upper_cons, ← ih]
    cases c with
    | char c =>
      rw [← upperPoint_toLower c]
      rfl
    | surrogate n => rfl

/-! ## Beyond ASCII -/

/-- The characters beyond ASCII with an upper case of ASCII letters: the sharp s, the dotless i, the
long s, and the ligatures of Latin letters. -/
def lettersBeyondAscii : List CodePoint :=
  ['\u00df', '\u0131', '\u017f', '\ufb00', '\ufb01', '\ufb02', '\ufb03', '\ufb04', '\ufb05',
    '\ufb06']

theorem toNat_ofNat {n : Nat} (h : n < 0xD800 ∨ 0xE000 ≤ n ∧ n < 0x110000) :
    (Char.ofNat n).toNat = n := by
  have hvalid : n.isValidChar := h.imp_right fun ⟨hlow, hhigh⟩ => ⟨by omega, hhigh⟩
  rw [Char.ofNat, dif_pos hvalid]
  rfl

/-- Most runs stay beyond ASCII. The others are one letter long. -/
theorem beyond_of_mem_upperRuns : ∀ r ∈ upperRuns,
    128 ≤ r.first + r.shift ∧ (r.last + r.shift < 0xD800 ∨
      0xE000 ≤ r.first + r.shift ∧ r.last + r.shift < 0x110000) ∨
    r.first = r.last ∧ .char (Char.ofNat r.first) ∈ lettersBeyondAscii := by
  decide +kernel

theorem mem_of_mem_upperExpansions : ∀ p ∈ upperExpansions, p.2.all (·.toNat < 128) = true →
    .char (Char.ofNat p.1) ∈ lettersBeyondAscii := by
  decide

/-- A character with an ASCII upper case is ASCII or one of the ten. -/
theorem mem_lettersBeyondAscii {c : CodePoint} (h : ∀ d ∈ upperPoint c, d.number < 128) :
    c.number < 128 ∨ c ∈ lettersBeyondAscii := by
  cases c with
  | surrogate n =>
    have hn : 0xD800 + (n : Nat) < 128 := h _ (List.mem_singleton_self _)
    omega
  | char c =>
    refine Decidable.or_iff_not_imp_left.2 fun hc => ?_
    have hc : ¬ c.toNat < 128 := hc
    have hupper : ∀ d ∈ upperBeyondAscii c, d.toNat < 128 := by
      intro d hd
      refine h (.char d) (List.mem_map_of_mem ?_)
      rwa [upperChar, if_neg hc]
    unfold upperBeyondAscii at hupper
    split at hupper
    · next cs hcs =>
      obtain ⟨front, back, hsplit, -⟩ := List.lookup_eq_some_iff.1 hcs
      have hmem := mem_of_mem_upperExpansions (c.toNat, cs) (by simp [hsplit])
        (by simpa using hupper)
      rwa [Char.ofNat_toNat] at hmem
    · split at hupper
      · next r hr =>
        have hcovers := List.find?_some hr
        rcases beyond_of_mem_upperRuns r (List.mem_of_find?_eq_some hr) with hrun | hrun
        · have hd := hupper _ (List.mem_singleton_self _)
          simp only [CaseRun.covers, Bool.and_eq_true, decide_eq_true_eq] at hcovers
          rw [toNat_ofNat (by omega)] at hd
          omega
        · simp only [CaseRun.covers, Bool.and_eq_true, decide_eq_true_eq] at hcovers
          have hn : c.toNat = r.first := by omega
          rw [← hn, Char.ofNat_toNat] at hrun
          exact hrun.2
      · exact (hc (hupper c (List.mem_singleton_self c))).elim

end Spreadsheet.Text
