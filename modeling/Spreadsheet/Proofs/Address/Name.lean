import Mathlib.Data.List.Induction
import Spreadsheet.Address.Name
import Spreadsheet.Proofs.Text.Digits

/-!
# Every address has one name

Column letters are read back as the column that they name (`index_letters`, `letters_index`), and so
is the whole name of an address (`decode_label`). A text is read as an address exactly if it is the
name of the address in some mixture of cases (`decode_eq_iff`).
-/

namespace Spreadsheet

open Text

/-! ## Upper case -/

namespace Text

theorem upperPoint_of_toNat {c : Char} (h : c.toNat < 97) : upperPoint (.char c) = [.char c] := by
  have hupper : c.toUpper = c := by
    refine dif_neg ?_
    rintro ⟨hlow, -⟩
    exact absurd (show 97 ≤ c.toNat from hlow) (by omega)
  rw [upperPoint, upperChar, if_pos (by omega), hupper]
  rfl

theorem upper_eq_self {t : Text} (h : ∀ c ∈ t, upperPoint c = [c]) : upper t = t := by
  induction t with
  | nil => rfl
  | cons c t ih =>
    rw [upper_cons, h c List.mem_cons_self, ih fun d hd => h d (List.mem_cons_of_mem c hd)]
    rfl

end Text

/-! ## Columns -/

namespace Column

theorem isLetter_iff {c : CodePoint} : isLetter c = true ↔ ∃ n < 26, c = letter n := by
  constructor
  · intro h
    cases c with
    | surrogate n => exact absurd h Bool.false_ne_true
    | char c =>
      simp only [isLetter, CodePoint.satisfies, Bool.and_eq_true, decide_eq_true_eq] at h
      have hlow : 65 ≤ c.toNat := h.1
      have hhigh : c.toNat ≤ 90 := h.2
      refine ⟨c.toNat - 65, by omega, ?_⟩
      rw [letter, Nat.add_sub_cancel' hlow, Char.ofNat_toNat]
  · rintro ⟨n, hn, rfl⟩
    revert n
    decide

theorem number_letter {n : Nat} (h : n < 26) : (letter n).number = 65 + n := by
  revert n
  decide

theorem upperPoint_of_isLetter {c : CodePoint} (h : isLetter c = true) : upperPoint c = [c] := by
  obtain ⟨n, hn, rfl⟩ := isLetter_iff.1 h
  have hnumber : (Char.ofNat (65 + n)).toNat = 65 + n := number_letter hn
  exact upperPoint_of_toNat (by omega)

theorem isLetter_of_mem_letters {n : Nat} {c : CodePoint} (h : c ∈ letters n) :
    isLetter c = true := by
  induction n using letters.induct with
  | case1 n hn =>
    rw [letters, if_pos hn, List.mem_singleton] at h
    exact isLetter_iff.2 ⟨n, hn, h⟩
  | case2 n hn ih =>
    rw [letters, if_neg hn, List.mem_append, List.mem_singleton] at h
    exact h.elim ih fun hc => isLetter_iff.2 ⟨n % 26, Nat.mod_lt n (by decide), hc⟩

theorem letters_ne_nil (n : Nat) : letters n ≠ [] := by
  rw [letters]
  split
  · exact List.cons_ne_nil _ _
  · exact List.append_ne_nil_of_right_ne_nil _ (List.cons_ne_nil _ _)

theorem index_append_letter (t : Text) {n : Nat} (h : n < 26) :
    index (t ++ [letter n]) = 26 * (index t + 1) + n := by
  simp only [index, List.foldl_append, List.foldl_cons, List.foldl_nil, number_letter h]
  omega

theorem index_letters (n : Nat) : index (letters n) = n := by
  induction n using letters.induct with
  | case1 n hn =>
    rw [letters, if_pos hn]
    exact (index_append_letter [] hn).trans (by simp [index])
  | case2 n hn ih =>
    rw [letters, if_neg hn, index_append_letter _ (Nat.mod_lt n (by decide)), ih]
    omega

theorem letters_index {t : Text} (ht : t ≠ []) (h : ∀ c ∈ t, isLetter c = true) :
    ∃ n : Nat, index t = n ∧ letters n = t := by
  induction t using List.reverseRecOn with
  | nil => exact (ht rfl).elim
  | append_singleton t c ih =>
    obtain ⟨k, hk, rfl⟩ := isLetter_iff.1 (h c (by simp))
    rw [index_append_letter t hk]
    by_cases hnil : t = []
    · subst hnil
      refine ⟨k, by simp [index], ?_⟩
      rw [letters, if_pos hk]
      rfl
    · obtain ⟨n, hindex, hletters⟩ := ih hnil fun d hd => h d (List.mem_append_left _ hd)
      refine ⟨26 * (n + 1) + k, by rw [hindex]; omega, ?_⟩
      rw [letters, if_neg (by omega), show (26 * (n + 1) + k) / 26 - 1 = n by omega,
        show (26 * (n + 1) + k) % 26 = k by omega, hletters]

end Column

/-! ## Row numbers -/

namespace Address

theorem isRowDigit_iff {c : CodePoint} :
    isRowDigit c = true ↔ ∃ d : Char, d.isDigit = true ∧ c = .char d := by
  cases c with
  | char c => simp [isRowDigit, CodePoint.satisfies]
  | surrogate n => simp [isRowDigit, CodePoint.satisfies]

theorem upperPoint_of_isRowDigit {c : CodePoint} (h : isRowDigit c = true) :
    upperPoint c = [c] := by
  obtain ⟨d, hd, rfl⟩ := isRowDigit_iff.1 h
  obtain ⟨-, hhigh⟩ := toNat_of_isDigit hd
  exact upperPoint_of_toNat (by omega)

theorem not_isLetter_of_isRowDigit {c : CodePoint} (h : isRowDigit c = true) :
    Column.isLetter c = false := by
  obtain ⟨d, hd, rfl⟩ := isRowDigit_iff.1 h
  obtain ⟨-, hhigh⟩ := toNat_of_isDigit hd
  by_contra hletter
  obtain ⟨n, hn, heq⟩ := Column.isLetter_iff.1 (Bool.not_eq_false _ ▸ hletter)
  have hnumber := congrArg CodePoint.number heq
  rw [Column.number_letter hn] at hnumber
  have : d.toNat = 65 + n := hnumber
  omega

theorem exists_ofChars_of_isRowDigit {t : Text} (h : ∀ c ∈ t, isRowDigit c = true) :
    ∃ cs : List Char, (∀ c ∈ cs, c.isDigit = true) ∧ t = ofChars cs := by
  induction t with
  | nil => exact ⟨[], by simp, rfl⟩
  | cons c t ih =>
    obtain ⟨d, hd, rfl⟩ := isRowDigit_iff.1 (h c List.mem_cons_self)
    obtain ⟨cs, hcs, rfl⟩ := ih fun e he => h e (List.mem_cons_of_mem _ he)
    exact ⟨d :: cs, List.forall_mem_cons.2 ⟨hd, hcs⟩, rfl⟩

theorem isRowDigit_of_mem_toDigits {n : Nat} {c : CodePoint}
    (h : c ∈ ofChars (Nat.toDigits 10 n)) : isRowDigit c = true := by
  obtain ⟨d, hd, rfl⟩ := List.mem_map.1 h
  exact isDigit_of_mem_toDigits hd

/-- A row number is what a positive number is written with. -/
theorem isRowNumber_iff {t : Text} : isRowNumber t = true ↔
    ∃ n : Nat, 0 < n ∧ t = ofChars (Nat.toDigits 10 n) := by
  constructor
  · intro h
    cases t with
    | nil => exact absurd h Bool.false_ne_true
    | cons d ds =>
      simp only [isRowNumber, Bool.and_eq_true, bne_iff_ne, List.all_eq_true] at h
      obtain ⟨⟨hd, hzero⟩, hds⟩ := h
      obtain ⟨c, hc, rfl⟩ := isRowDigit_iff.1 hd
      obtain ⟨cs, hcs, rfl⟩ := exists_ofChars_of_isRowDigit hds
      have hne : c ≠ '0' := fun heq => hzero (congrArg CodePoint.char heq)
      have hdigits := toDigits_digitsValue (List.forall_mem_cons.2 ⟨hc, hcs⟩) hne
      refine ⟨digitsValue (ofChars (c :: cs)), ?_, by rw [hdigits]; rfl⟩
      refine Nat.pos_of_ne_zero fun heq => hne ?_
      rw [heq] at hdigits
      exact (List.cons.inj hdigits).1.symm
  · rintro ⟨n, hn, rfl⟩
    obtain ⟨c, cs, heq, hc⟩ := toDigits_eq_cons hn
    have hdigit (d : CodePoint) (hd : d ∈ ofChars (c :: cs)) : isRowDigit d = true :=
      isRowDigit_of_mem_toDigits (heq ▸ hd)
    rw [heq]
    simp only [ofChars_cons, isRowNumber, Bool.and_eq_true, bne_iff_ne, List.all_eq_true]
    refine ⟨⟨hdigit _ List.mem_cons_self, fun h => hc (CodePoint.char.inj h)⟩, fun d hd => ?_⟩
    exact hdigit d (List.mem_cons_of_mem _ hd)

/-! ## Names -/

theorem splitName_congr {t u : Text} (h : upper t = upper u) : splitName t = splitName u := by
  rw [splitName, splitName, h]

theorem decode_congr {t u : Text} (h : upper t = upper u) : decode t = decode u := by
  rw [decode, decode, splitName_congr h]

theorem hasReferenceShape_congr {t u : Text} (h : upper t = upper u) :
    hasReferenceShape t = hasReferenceShape u := by
  rw [hasReferenceShape, hasReferenceShape, splitName_congr h]

theorem upper_label (a : Address) : upper a.label = a.label := by
  refine upper_eq_self fun c hc => ?_
  rcases List.mem_append.1 hc with hc | hc
  · exact Column.upperPoint_of_isLetter (Column.isLetter_of_mem_letters hc)
  · exact upperPoint_of_isRowDigit (isRowDigit_of_mem_toDigits hc)

theorem splitName_label (a : Address) : splitName a.label =
    (Column.letters a.column.toNat, ofChars (Nat.toDigits 10 (a.row + 1).toNat)) := by
  rw [splitName, upper_label]
  refine cut_append (fun c hc => Column.isLetter_of_mem_letters hc) fun c hc => ?_
  exact not_isLetter_of_isRowDigit (isRowDigit_of_mem_toDigits (List.mem_of_head? hc))

/-- The name of an address is read back as the address. -/
theorem decode_label {a : Address} (hrow : 0 ≤ a.row) (hcolumn : 0 ≤ a.column)
    (hlength : (Nat.toDigits 10 (a.row + 1).toNat).length ≤ Decimal.maxDigits) :
    decode a.label = .ok (some a) := by
  have hnumber : isRowNumber (ofChars (Nat.toDigits 10 (a.row + 1).toNat)) = true :=
    isRowNumber_iff.2 ⟨_, by omega, rfl⟩
  have hletters : (Column.letters a.column.toNat).isEmpty = false :=
    List.isEmpty_eq_false_iff.2 (Column.letters_ne_nil _)
  have hshort : ¬ Decimal.maxDigits < (ofChars (Nat.toDigits 10 (a.row + 1).toNat)).length := by
    rw [ofChars, List.length_map]
    omega
  have ha : (⟨((a.row + 1).toNat : Int) - 1, a.column.toNat⟩ : Address) = a := by
    rw [Int.toNat_of_nonneg (by omega), Int.toNat_of_nonneg hcolumn, Int.add_sub_cancel]
  rw [decode, splitName_label]
  simp only [hletters, hnumber, hshort, digitsValue_toDigits, Column.index_letters, ha]
  rfl

theorem InBounds.decode_label {a : Address} (h : a.InBounds) : decode a.label = .ok (some a) := by
  obtain ⟨hrow, hrows, hcolumn, -⟩ := h
  have hrows : a.row < 1048576 := hrows
  refine Address.decode_label hrow hcolumn ?_
  have hseven : (Nat.toDigits 10 (a.row + 1).toNat).length ≤ 7 :=
    (Nat.length_toDigits_le_iff (by decide) (by decide)).2 (by omega)
  exact Nat.le_trans hseven (by decide)

/-- What a text that names an address is made of. -/
theorem exists_of_decode {t : Text} {a : Address} (h : decode t = .ok (some a)) :
    ∃ row column : Nat, a = ⟨row, column⟩ ∧ Decimal.length (row + 1) ≤ Decimal.maxDigits ∧
      upper t = Column.letters column ++ ofChars (Nat.toDigits 10 (row + 1)) := by
  unfold decode at h
  split at h
  next letters digits hsplit =>
  split at h
  · cases h
  next hshape =>
  split at h
  · cases h
  next hlong =>
  simp only [Bool.or_eq_true, Bool.not_eq_true', not_or, Bool.not_eq_true, Bool.not_eq_false,
    List.isEmpty_eq_false_iff] at hshape
  obtain ⟨hletters, hdigits⟩ := hshape
  obtain ⟨n, hn, rfl⟩ := isRowNumber_iff.1 hdigits
  obtain ⟨column, hcolumn, rfl⟩ := Column.letters_index hletters (all_of_cut hsplit)
  obtain ⟨row, rfl⟩ : ∃ row, n = row + 1 := ⟨n - 1, by omega⟩
  rw [digitsValue_toDigits, hcolumn] at h
  cases h
  rw [ofChars, List.length_map, Nat.not_lt] at hlong
  exact ⟨row, column, by simp, hlong, (append_of_cut hsplit).symm⟩

theorem label_natCast (row column : Nat) : label ⟨row, column⟩ =
    Column.letters column ++ ofChars (Nat.toDigits 10 (row + 1)) :=
  rfl

/-- A text that names an address is the name of the address but for the cases of its letters. -/
theorem label_of_decode {t : Text} {a : Address} (h : decode t = .ok (some a)) :
    a.label = upper t ∧ 0 ≤ a.row ∧ 0 ≤ a.column := by
  obtain ⟨row, column, rfl, -, hupper⟩ := exists_of_decode h
  exact ⟨by rw [hupper, label_natCast], Int.natCast_nonneg row, Int.natCast_nonneg column⟩

theorem encode_eq_ok_iff {t : Text} {a : Address} : encode a = .ok t ↔
    0 ≤ a.row ∧ 0 ≤ a.column ∧
      Decimal.length (a.row + 1).toNat ≤ Decimal.maxDigits ∧ a.label = t := by
  constructor
  · intro h
    unfold encode at h
    split at h
    · cases h
    split at h
    · cases h
    split at h
    · cases h
    cases h
    exact ⟨by omega, by omega, by omega, rfl⟩
  · rintro ⟨hrow, hcolumn, hlength, rfl⟩
    rw [encode, if_neg (by omega), if_neg (by omega), if_neg (by omega)]

/-- A text is read as an address exactly if the address is written like the text in upper case. -/
theorem decode_eq_iff {t : Text} {a : Address} :
    decode t = .ok (some a) ↔ encode a = .ok (upper t) := by
  rw [encode_eq_ok_iff]
  constructor
  · intro h
    obtain ⟨row, column, rfl, hlength, hupper⟩ := exists_of_decode h
    exact ⟨Int.natCast_nonneg row, Int.natCast_nonneg column, hlength,
      by rw [hupper, label_natCast]⟩
  · rintro ⟨hrow, hcolumn, hlength, hlabel⟩
    rw [← decode_label hrow hcolumn hlength, decode_congr]
    rw [upper_label, hlabel]

end Address

end Spreadsheet
