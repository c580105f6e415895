import Mathlib.Logic.Function.Iterate
import Spreadsheet.Proofs.Address.Name
import Spreadsheet.Proofs.Text.Case

/-!
# Addresses and their names

Writing an address and reading its name undo each other, and so do naming a column and reading its
letters (`encode_decode_inverse`). `Column.Naming` names a column by a loop that finds one letter
after the other, the last one first; it ends, with the letters of the column (`iterate_turn`).
-/

namespace Spreadsheet

open Text

/-! ## Columns -/

namespace Column

/-- A column on its way to its name: the number whose letters are still to be found, and the letters
found so far. -/
structure Naming where
  rest : Int
  found : Text

/-- Finds one more letter, which stands before those found so far. -/
def Naming.turn (s : Naming) : Naming :=
  ⟨s.rest / 26 - 1, letter (s.rest % 26).toNat :: s.found⟩

theorem Naming.turn_natCast (n : Nat) (found : Text) :
    turn ⟨n, found⟩ = ⟨(n : Int) / 26 - 1, letter (n % 26) :: found⟩ :=
  rfl

/-- The loop takes one turn for each letter, and before each of them there is a number left. -/
theorem iterate_turn (n : Nat) : ∀ found : Text,
    Naming.turn^[(letters n).length] ⟨n, found⟩ = ⟨-1, letters n ++ found⟩ ∧
      ∀ m < (letters n).length, 0 ≤ (Naming.turn^[m] ⟨n, found⟩).rest := by
  induction n using letters.induct with
  | case1 n hn =>
    intro found
    have hlast : (n : Int) / 26 - 1 = -1 := by omega
    rw [letters, if_pos hn]
    constructor
    · show Naming.turn ⟨n, found⟩ = _
      rw [Naming.turn_natCast, hlast, Nat.mod_eq_of_lt hn]
      rfl
    · intro m hm
      obtain rfl : m = 0 := by simpa using hm
      exact Int.natCast_nonneg n
  | case2 n hn ih =>
    intro found
    have hnext : (n : Int) / 26 - 1 = (n / 26 - 1 : Nat) := by omega
    obtain ⟨hend, hrest⟩ := ih (letter (n % 26) :: found)
    rw [letters, if_neg hn, List.length_append, List.length_singleton]
    constructor
    · rw [Function.iterate_succ_apply, Naming.turn_natCast, hnext, hend, List.append_assoc,
        List.singleton_append]
    · intro m hm
      cases m with
      | zero => exact Int.natCast_nonneg n
      | succ m =>
        rw [Function.iterate_succ_apply, Naming.turn_natCast, hnext]
        exact hrest m (by omega)

theorem encode_natCast (n : Nat) : encode n = .ok (letters n) := by
  rw [encode, if_neg (by omega), Int.toNat_natCast]

theorem decode_of_isLetter {s : Text} (h : ∀ c ∈ s, isLetter c = true) : decode s = index s := by
  rw [decode, upper_eq_self fun c hc => upperPoint_of_isLetter (h c hc)]

theorem encode_decode {s : Text} (hs : s ≠ []) (h : ∀ c ∈ s, isLetter c = true) :
    encode (decode s) = .ok s := by
  obtain ⟨n, hn, hletters⟩ := letters_index hs h
  rw [decode_of_isLetter h, hn, encode_natCast, hletters]

end Column

/-! ## Addresses -/

namespace Address

/-- Writing an address and reading its name undo each other, in either case of the letters, and so
do naming a column and reading its letters. The loop that names a column ends with its name. -/
theorem encode_decode_inverse :
    (∀ row column : Nat, Decimal.length (row + 1) ≤ Decimal.maxDigits → ∃ t : Text,
      encode ⟨row, column⟩ = .ok t ∧ decode t = .ok (some ⟨row, column⟩) ∧
        decode t.lowerAscii = .ok (some ⟨row, column⟩)) ∧
    (∀ (t : Text) (a : Address), decode t = .ok (some a) ↔
      0 ≤ a.row ∧ 0 ≤ a.column ∧ encode a = .ok (upper t)) ∧
    (∀ i : Nat, ∃ s : Text, Column.encode i = .ok s ∧ Column.decode s = i ∧
      Column.Naming.turn^[s.length] ⟨i, []⟩ = ⟨-1, s⟩ ∧
        ∀ m < s.length, 0 ≤ (Column.Naming.turn^[m] ⟨i, []⟩).rest) ∧
    (∀ s : Text, s ≠ [] → (∀ c ∈ s, Column.isLetter c = true) →
      Column.encode (Column.decode s) = .ok s) := by
  refine ⟨fun row column hlength => ?_, fun t a => ⟨fun h => ?_, fun h => decode_eq_iff.2 h.2.2⟩,
    fun i => ?_, fun s => Column.encode_decode⟩
  · have hdecode : decode (label ⟨row, column⟩) = .ok (some ⟨row, column⟩) :=
      decode_label (Int.natCast_nonneg row) (Int.natCast_nonneg column) hlength
    refine ⟨label ⟨row, column⟩, ?_, hdecode, ?_⟩
    · rw [decode_eq_iff.1 hdecode, upper_label]
    · rw [decode_congr (upper_lowerAscii _), hdecode]
  · obtain ⟨-, hrow, hcolumn⟩ := label_of_decode h
    exact ⟨hrow, hcolumn, decode_eq_iff.1 h⟩
  · obtain ⟨hend, hrest⟩ := Column.iterate_turn i []
    rw [List.append_nil] at hend
    refine ⟨Column.letters i, Column.encode_natCast i, ?_, hend, hrest⟩
    rw [Column.decode_of_isLetter fun c hc => Column.isLetter_of_mem_letters hc,
      Column.index_letters]

/-- The last name of two letters and the first one of three. -/
theorem encode_decode_carry :
    Decimal.length (9 + 1) ≤ Decimal.maxDigits ∧ decode "aAa10" = .ok (some ⟨9, 702⟩) ∧
      encode ⟨9, 702⟩ = .ok ("AAA10" : Text) ∧
      decode (lowerAscii "AAA10") = .ok (some ⟨9, 702⟩) ∧
      Column.encode (Column.decode "ZZ") = .ok ("ZZ" : Text) := by
  obtain ⟨hwrite, hread, -, hletters⟩ := encode_decode_inverse
  have hlength : Decimal.length (9 + 1) ≤ Decimal.maxDigits := by decide
  have hdecode : decode "aAa10" = .ok (some ⟨9, 702⟩) := rfl
  obtain ⟨-, -, hencode⟩ := (hread _ _).1 hdecode
  obtain ⟨t, ht, -, hlower⟩ := hwrite 9 702 hlength
  obtain rfl : t = "AAA10" := Except.ok.inj (ht.symm.trans hencode)
  exact ⟨hlength, hdecode, ht, hlower, hletters "ZZ" (by decide) (by decide)⟩

end Address

end Spreadsheet
