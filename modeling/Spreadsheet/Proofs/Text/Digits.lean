import Spreadsheet.Text.Blank
import Spreadsheet.Text.Cut
import Spreadsheet.Text.Digit

/-!
# Decimal digits written and read

The digits that a number is written with read back as the number (`digitsValue_toDigits`), and
digits without a leading zero are the ones that their number is written with
(`toDigits_digitsValue`). No digit of any script is white space (`not_isBlank_of_isDigit`).
-/

namespace Spreadsheet.Text

theorem toNat_of_isDigit {c : Char} (h : c.isDigit = true) : 48 ≤ c.toNat ∧ c.toNat < 58 := by
  simp only [Char.isDigit, Bool.and_eq_true, decide_eq_true_eq] at h
  exact ⟨h.1, Nat.lt_succ_of_le h.2⟩

theorem digitValue?_of_isDigit {c : Char} (h : c.isDigit = true) :
    digitValue? (.char c) = some (c.toNat - 48) := by
  obtain ⟨hlow, hhigh⟩ := toNat_of_isDigit h
  simp [digitValue?, digitZeros, CodePoint.number, hlow, hhigh]

theorem digitChar_of_isDigit {c : Char} (h : c.isDigit = true) :
    Nat.digitChar (c.toNat - 48) = c := by
  obtain ⟨hlow, hhigh⟩ := toNat_of_isDigit h
  apply Char.toNat_inj.1
  rw [Nat.toNat_digitChar_of_lt_ten (by omega)]
  omega

theorem isDigit_of_mem_toDigits {n : Nat} {c : Char} (h : c ∈ Nat.toDigits 10 n) :
    c.isDigit = true :=
  Nat.isDigit_of_mem_toDigits (by decide) (by decide) h

theorem exists_toDigits_eq_cons (n : Nat) :
    ∃ d ds, Nat.toDigits 10 n = d :: ds ∧ d.isDigit = true := by
  cases hds : Nat.toDigits 10 n with
  | nil => exact (Nat.toDigits_ne_nil hds).elim
  | cons d ds => exact ⟨d, ds, rfl, isDigit_of_mem_toDigits (hds ▸ List.mem_cons_self)⟩

theorem digitsValue_ofChars {cs : List Char} (h : ∀ c ∈ cs, c.isDigit = true) :
    digitsValue (ofChars cs) = Nat.ofDigitChars 10 cs 0 := by
  have fold : ∀ n, cs.foldl (fun n c => 10 * n + (digitValue? (.char c)).getD 0) n =
      cs.foldl (fun n c => 10 * n + (c.toNat - 48)) n := by
    induction cs with
    | nil => exact fun _ => rfl
    | cons c cs ih =>
      intro n
      rw [List.foldl_cons, List.foldl_cons, digitValue?_of_isDigit (h c List.mem_cons_self)]
      exact ih (fun d hd => h d (List.mem_cons_of_mem c hd)) _
  rw [digitsValue, ofChars, List.foldl_map, Nat.ofDigitChars_eq_foldl]
  exact fold 0

theorem digitsValue_toDigits (n : Nat) : digitsValue (ofChars (Nat.toDigits 10 n)) = n := by
  rw [digitsValue_ofChars fun c => isDigit_of_mem_toDigits, Nat.ofDigitChars_ten_toDigits]

/-- Digits that go on a number are the last digits of the longer number. -/
theorem toDigits_append {cs : List Char} (h : ∀ c ∈ cs, c.isDigit = true) : ∀ {n : Nat}, 0 < n →
    Nat.toDigits 10 (Nat.ofDigitChars 10 cs n) = Nat.toDigits 10 n ++ cs := by
  induction cs with
  | nil => simp
  | cons c cs ih =>
    intro n hn
    have hc : c.isDigit = true := h c List.mem_cons_self
    have hlt : c.toNat - 48 < 10 := by
      obtain ⟨hlow, hhigh⟩ := toNat_of_isDigit hc
      omega
    have hnext : Nat.toDigits 10 (10 * n + (c.toNat - 48)) = Nat.toDigits 10 n ++ [c] := by
      rw [← Nat.toDigits_append_toDigits (by decide) hn hlt, Nat.toDigits_of_lt_base hlt,
        digitChar_of_isDigit hc]
    rw [Nat.ofDigitChars_cons]
    show Nat.toDigits 10 (Nat.ofDigitChars 10 cs (10 * n + (c.toNat - 48))) = _
    rw [ih (fun d hd => h d (List.mem_cons_of_mem c hd)) (by omega), hnext, List.append_assoc,
      List.singleton_append]

theorem toDigits_eq_cons {n : Nat} (h : 0 < n) :
    ∃ c cs, Nat.toDigits 10 n = c :: cs ∧ c ≠ '0' := by
  induction n using Nat.strongRecOn with
  | _ n ih =>
    by_cases hlt : n < 10
    · refine ⟨Nat.digitChar n, [], Nat.toDigits_of_lt_base hlt, ?_⟩
      have : ∀ n < 10, 0 < n → Nat.digitChar n ≠ '0' := by decide
      exact this n hlt h
    · obtain ⟨c, cs, heq, hc⟩ := ih (n / 10) (by omega) (by omega)
      have hsplit : Nat.toDigits 10 n = Nat.toDigits 10 (n / 10) ++ Nat.toDigits 10 (n % 10) := by
        rw [Nat.toDigits_append_toDigits (by decide) (by omega) (Nat.mod_lt n (by decide)),
          Nat.div_add_mod]
      exact ⟨c, cs ++ Nat.toDigits 10 (n % 10), by rw [hsplit, heq]; rfl, hc⟩

theorem toDigits_digitsValue {c : Char} {cs : List Char} (h : ∀ d ∈ c :: cs, d.isDigit = true)
    (hc : c ≠ '0') : Nat.toDigits 10 (digitsValue (ofChars (c :: cs))) = c :: cs := by
  have hdigit : c.isDigit = true := h c List.mem_cons_self
  obtain ⟨hlow, hhigh⟩ := toNat_of_isDigit hdigit
  have hpos : 0 < c.toNat - 48 := by
    have hne : c.toNat ≠ 48 := fun heq => hc (Char.toNat_inj.1 heq)
    omega
  rw [digitsValue_ofChars h, Nat.ofDigitChars_cons]
  show Nat.toDigits 10 (Nat.ofDigitChars 10 cs (10 * 0 + (c.toNat - 48))) = c :: cs
  rw [Nat.mul_zero, Nat.zero_add,
    toDigits_append (fun d hd => h d (List.mem_cons_of_mem c hd)) hpos,
    Nat.toDigits_of_lt_base (by omega), digitChar_of_isDigit hdigit]
  rfl

/-! ## Digits of every script -/

/-- A property of the digits of all scripts, checked one by one. -/
theorem forall_isDigit {P : CodePoint → Prop}
    (h : ∀ z ∈ digitZeros, ∀ n < 10, P (.ofNumber (z + n))) {c : CodePoint}
    (hc : isDigit c = true) : P c := by
  rw [isDigit, digitValue?, Option.isSome_map, Option.isSome_iff_exists] at hc
  obtain ⟨z, hz⟩ := hc
  have hrun := List.find?_some hz
  simp only [Bool.and_eq_true, decide_eq_true_eq] at hrun
  have hnumber := h z (List.mem_of_find?_eq_some hz) (c.number - z) (by omega)
  rwa [Nat.add_sub_cancel' hrun.1, CodePoint.ofNumber_number] at hnumber

theorem not_isBlank_of_isDigit {c : CodePoint} (h : isDigit c = true) : isBlank c = false :=
  forall_isDigit (P := fun c => isBlank c = false) (by decide +kernel) h

end Spreadsheet.Text
