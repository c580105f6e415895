import Spreadsheet.Library.Standard
import Spreadsheet.Proofs.Formula.Completeness
import Spreadsheet.Proofs.Formula.Names

/-!
# Names of cells outside and inside formulas

An address is read from any text whose upper case is its name, and upper-casing turns ten characters
beyond ASCII into ASCII letters. A formula knows only ASCII names. So a text that names a cell where
an address is asked for names the same cell as a formula exactly if none of the ten is in it
(`parse_eq_ref_iff`).
-/

namespace Spreadsheet

open Text

/-! ## Texts that name an address -/

namespace Address

variable {t : Text} {a : Address} {c : CodePoint}

/-- What upper-casing a text that names an address leads to. -/
theorem upperPoint_of_decode (h : decode t = .ok (some a)) (hc : c ∈ t) :
    ∀ d ∈ upperPoint c, Column.isLetter d = true ∨ isRowDigit d = true := by
  intro d hd
  obtain ⟨row, column, -, -, hupper⟩ := exists_of_decode h
  have hmem : d ∈ upper t := List.mem_flatMap.2 ⟨c, hc, hd⟩
  rw [hupper, List.mem_append] at hmem
  exact hmem.imp Column.isLetter_of_mem_letters isRowDigit_of_mem_toDigits

theorem number_lt_of_isLetter (h : Column.isLetter c = true) : c.number < 128 := by
  obtain ⟨n, hn, rfl⟩ := Column.isLetter_iff.1 h
  rw [Column.number_letter hn]
  omega

theorem number_lt_of_isRowDigit (h : isRowDigit c = true) : c.number < 128 := by
  obtain ⟨d, hd, rfl⟩ := isRowDigit_iff.1 h
  have hlt := (toNat_of_isDigit hd).2
  show d.toNat < 128
  omega

/-- The ten letters are no characters of names, and no other token begins with one. -/
theorem not_opening_of_mem : ∀ c ∈ lettersBeyondAscii, isBlank c = false ∧ isDigit c = false ∧
    Token.isNamePart c = false ∧ c ∉ Token.openingMarks := by
  decide +kernel

/-- A text that names an address is made of characters of names and of the ten letters. -/
theorem isNamePart_or_mem_of_decode (h : decode t = .ok (some a)) (hc : c ∈ t) :
    Token.isNamePart c = true ∨ c ∈ lettersBeyondAscii := by
  have hupper := upperPoint_of_decode h hc
  have hlt : ∀ d ∈ upperPoint c, d.number < 128 := fun d hd =>
    (hupper d hd).elim number_lt_of_isLetter number_lt_of_isRowDigit
  refine (mem_lettersBeyondAscii hlt).imp_left fun hc => ?_
  cases c with
  | surrogate n =>
    have hn : 0xD800 + (n : Nat) < 128 := hc
    omega
  | char c =>
    exact forall_ascii (P := fun c =>
      (∀ d ∈ upperPoint (.char c), Column.isLetter d = true ∨ isRowDigit d = true) →
        Token.isNamePart (.char c) = true) (by decide +kernel) hc hupper

/-- Such a text does not begin with a digit. -/
theorem isNameStart_of_decode (h : decode t = .ok (some a)) (hc : c ∈ t.head?)
    (hpart : Token.isNamePart c = true) : Token.isNameStart c = true := by
  by_contra hstart
  have hdigit : isRowDigit c = true := by
    rw [Token.isNamePart, Bool.eq_false_of_not_eq_true hstart, Bool.false_or] at hpart
    exact hpart
  obtain ⟨row, column, -, -, hupper⟩ := exists_of_decode h
  obtain ⟨l, ls, hletters⟩ := List.exists_cons_of_ne_nil (Column.letters_ne_nil column)
  obtain ⟨cs, rfl⟩ : ∃ cs, t = c :: cs := List.head?_eq_some_iff.1 hc
  rw [upper_cons, upperPoint_of_isRowDigit hdigit, hletters] at hupper
  have hl : Column.isLetter l = true :=
    Column.isLetter_of_mem_letters (hletters ▸ List.mem_cons_self)
  rw [← (List.cons.inj hupper).1, not_isLetter_of_isRowDigit hdigit] at hl
  cases hl

theorem not_isBlank_of_decode (h : decode t = .ok (some a)) (hc : c ∈ t) : isBlank c = false := by
  rcases isNamePart_or_mem_of_decode h hc with hpart | hmem
  · exact Token.not_isBlank_of_isNamePart hpart
  · exact (not_opening_of_mem c hmem).1

theorem ne_nil_of_decode (h : decode t = .ok (some a)) : t ≠ [] := by
  rintro rfl
  cases h

end Address

/-! ## The same texts as formulas -/

namespace Formula

variable {limit : NestingLimit} {isFunction : Text → Bool} {text front rest : Text} {c : CodePoint}
  {a : Address}

theorem parse_eq_ref (h : Address.decode text = .ok (some a)) (ha : a.InBounds)
    (hall : ∀ c ∈ text, c ∉ lettersBeyondAscii) :
    parse limit isFunction (.char '=' :: text) = .ok (.ref a) := by
  obtain ⟨c, cs, rfl⟩ := List.exists_cons_of_ne_nil (Address.ne_nil_of_decode h)
  have hpart : ∀ d ∈ c :: cs, Token.isNamePart d = true := fun d hd =>
    (Address.isNamePart_or_mem_of_decode h hd).resolve_right (hall d hd)
  rw [List.forall_mem_cons] at hpart
  have hstart : Token.isNameStart c = true := Address.isNameStart_of_decode h rfl hpart.1
  exact parse_name hstart hpart.2 fun _ =>
    named_of_namesCell ⟨rfl, (Address.label_of_decode h).1.symm, ha⟩ stops_nil

theorem parse_eq_unexpected (h : Address.decode (front ++ c :: rest) = .ok (some a))
    (hfront : ∀ d ∈ front, d ∉ lettersBeyondAscii) (hc : c ∈ lettersBeyondAscii) :
    parse limit isFunction (.char '=' :: (front ++ c :: rest)) =
      malformed (.unexpected [c] front.length) := by
  have hparts : ∀ d ∈ front, Token.isNamePart d = true := fun d hd =>
    (Address.isNamePart_or_mem_of_decode h (List.mem_append_left _ hd)).resolve_right (hfront d hd)
  have hstart : ∀ d ∈ front.head?, Token.isNameStart d = true := by
    intro d hd
    refine Address.isNameStart_of_decode h ?_ (hparts d (List.mem_of_head? hd))
    rw [List.head?_append, hd]
    rfl
  obtain ⟨hblank, hdigit, hpart, hmark⟩ := Address.not_opening_of_mem c hc
  have hname : Token.isNameStart c = false := (Bool.or_eq_false_iff.1 hpart).1
  rw [parse_mark fun d hd => Address.not_isBlank_of_decode h hd,
    Token.tokenize_eq_error hparts hstart hpart (Token.lexeme?_eq_none hblank hdigit hname hmark)]
  rfl

/-- A text that is read as an address in bounds is a formula that refers to the address exactly if
it has none of the ten letters beyond ASCII that upper-casing turns into ASCII letters. At the first
of these letters, reading the formula fails. -/
theorem parse_eq_ref_iff (limit : NestingLimit) (isFunction : Text → Bool) {text : Text}
    {a : Address} (h : Address.decode text = .ok (some a)) (ha : a.InBounds) :
    (parse limit isFunction (.char '=' :: text) = .ok (.ref a) ↔
      ∀ c ∈ text, c ∉ lettersBeyondAscii) ∧
    ∀ front c rest, text = front ++ c :: rest → (∀ d ∈ front, d ∉ lettersBeyondAscii) →
      c ∈ lettersBeyondAscii →
        parse limit isFunction (.char '=' :: text) = malformed (.unexpected [c] front.length) := by
  refine ⟨⟨fun hparse => ?_, parse_eq_ref h ha⟩, ?_⟩
  · cases hfind : text.find? fun c => c ∈ lettersBeyondAscii with
    | none => simpa using hfind
    | some c =>
      obtain ⟨hc, front, rest, rfl, hfront⟩ := List.find?_eq_some_iff_append.1 hfind
      rw [parse_eq_unexpected h (by simpa using hfront) (by simpa using hc)] at hparse
      cases hparse
  · rintro front c rest rfl hfront hc
    exact parse_eq_unexpected h hfront hc

/-- A text with a sharp s names a cell, but it is not a formula. -/
theorem parse_sharpS :
    Address.decode "ß1" = .ok (some ⟨0, 512⟩) ∧ Address.InBounds ⟨0, 512⟩ ∧
      parse .usual Library.standard.contains "=ß1" = malformed (.unexpected "ß" 0) := by
  have hdecode : Address.decode "ß1" = .ok (some ⟨0, 512⟩) := rfl
  have hbounds : Address.InBounds ⟨0, 512⟩ := by decide
  obtain ⟨-, hfails⟩ := parse_eq_ref_iff .usual Library.standard.contains hdecode hbounds
  exact ⟨hdecode, hbounds, hfails [] _ _ rfl (by simp) (by decide)⟩

end Formula

end Spreadsheet
