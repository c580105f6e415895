import Spreadsheet.Proofs.Address.Name
import Spreadsheet.Proofs.Formula.Faults
import Spreadsheet.Proofs.Text.Case

/-!
# Lexemes

A name, a numeral, a string and white space are cut off where they end, and a sign is a token of
its own (`lexeme?_name`, `lexeme?_number`, `lexeme?_string`, `lexeme?_blank`, `lexeme?_sign`). The
cutting of a text fails at a character that no token begins with (`lexeme?_eq_none`). Where a text
starts makes no difference but to the positions of its tokens (`scan_add`).
-/

namespace Spreadsheet

open Text

theorem Numeral.scan?_eq_none {c : CodePoint} {cs : Text} (hdigit : isDigit c = false)
    (hpoint : c ≠ .char '.') : scan? (c :: cs) = none := by
  have hcut : cut isDigit (c :: cs) = ([], c :: cs) :=
    cut_of_head? (by simpa using hdigit)
  rw [scan?, hcut]
  split
  · next h => simp_all
  · rfl
  · next h => simp_all
  · next h => simp_all

theorem Numeral.not_isBlank_of_scan? {n : Numeral} {cs rest : Text}
    (h : scan? cs = some (n, rest)) : ∀ c ∈ cs.head?, isBlank c = false := by
  intro c hc
  obtain ⟨ds, rfl⟩ := List.head?_eq_some_iff.1 hc
  by_cases hdigit : isDigit c = true
  · exact not_isBlank_of_isDigit hdigit
  · by_cases hpoint : c = .char '.'
    · rw [hpoint]
      decide
    · rw [scan?_eq_none (Bool.eq_false_iff.2 hdigit) hpoint] at h
      cases h

theorem Numeral.ofText?_eq_some_iff {n : Numeral} {t : Text} :
    ofText? t = some n ↔ scan? t = some (n, []) := by
  rw [ofText?]
  split
  · next h => simp [h]
  · next h =>
    simp only [reduceCtorEq, false_iff]
    exact h n

theorem Numeral.spelling_of_ofText? {n : Numeral} {t : Text} (h : ofText? t = some n) :
    n.spelling = t := by
  have hspelling := spelling_append (ofText?_eq_some_iff.1 h)
  rwa [List.append_nil] at hspelling

namespace Token

variable {c : CodePoint} {cs rest : Text} {pos : Nat}

/-! ## The characters of names -/

theorem isNamePart_of_isNameStart (h : isNameStart c = true) : isNamePart c = true := by
  rw [isNamePart, h, Bool.true_or]

theorem toNat_lt_of_isAlpha {d : Char} (h : d.isAlpha = true) : d.toNat < 128 := by
  have hcase : (d.isUpper || d.isLower) = true := h
  rcases Bool.or_eq_true_iff.1 hcase with hupper | hlower
  · have hhigh : d.toNat ≤ 90 := (of_decide_eq_true hupper).2
    omega
  · have hhigh : d.toNat ≤ 122 := of_decide_eq_true (Bool.and_eq_true_iff.1 hlower).2
    omega

theorem exists_ascii_of_isNamePart (h : isNamePart c = true) :
    ∃ d : Char, d.toNat < 128 ∧ c = .char d := by
  cases c with
  | surrogate n => cases h
  | char d =>
    refine ⟨d, ?_, rfl⟩
    simp only [isNamePart, isNameStart, CodePoint.satisfies, Bool.or_eq_true,
      decide_eq_true_eq] at h
    rcases h with (halpha | rfl) | hdigit
    · exact toNat_lt_of_isAlpha halpha
    · decide
    · exact Nat.lt_trans (toNat_of_isDigit hdigit).2 (by decide)

/-- A property of all characters of names, checked one by one. -/
theorem forall_isNamePart {P : CodePoint → Prop} (h : ∀ n < 128,
    isNamePart (.char (Char.ofNat n)) = true → P (.char (Char.ofNat n))) {c : CodePoint}
    (hc : isNamePart c = true) : P c := by
  obtain ⟨d, hd, rfl⟩ := exists_ascii_of_isNamePart hc
  exact forall_ascii (P := fun d => isNamePart (.char d) = true → P (.char d)) h hd hc

theorem not_isBlank_of_isNamePart (h : isNamePart c = true) : isBlank c = false :=
  forall_isNamePart (P := fun c => isBlank c = false) (by decide) h

/-! ## What begins a lexeme -/

/-- The marks that a lexeme can begin with. -/
def openingMarks : List CodePoint :=
  '.' :: doubleQuote :: apostrophe :: '!' :: singleOperators

theorem ne_of_not_mem_openingMarks (h : c ∉ openingMarks) :
    c ≠ .char '.' ∧ c ≠ doubleQuote ∧ c ≠ apostrophe :=
  ⟨fun hc => h (hc ▸ by decide), fun hc => h (hc ▸ by decide), fun hc => h (hc ▸ by decide)⟩

theorem string?_eq_none (hdouble : c ≠ doubleQuote) (hsingle : c ≠ apostrophe) :
    string? (c :: cs) = none := by
  rw [string?, if_neg (by simp [hdouble, hsingle])]

theorem operator?_single (h : c ∈ singleOperators) (hdouble : c ∉ doubleOperators.map Prod.fst) :
    operator? (c :: cs) = some ([c], cs) := by
  cases cs with
  | nil => rw [operator?, if_pos h]
  | cons d cs =>
    have hpair : (c, d) ∉ doubleOperators := fun hc => hdouble (List.mem_map_of_mem hc)
    rw [operator?, if_neg hpair, if_pos h]

theorem operator?_eq_none (h : c ∉ openingMarks) : operator? (c :: cs) = none := by
  have hsingle : c ∉ singleOperators := fun hc => h (by simp [openingMarks, hc])
  cases cs with
  | nil => rw [operator?, if_neg hsingle]
  | cons d cs =>
    have hdouble : (c, d) ∉ doubleOperators := by
      have hfirst : ∀ p ∈ doubleOperators, p.1 ∈ openingMarks := by decide
      exact fun hc => h (hfirst _ hc)
    rw [operator?, if_neg hdouble, if_neg hsingle]

theorem name?_eq_none (h : isNameStart c = false) : name? (c :: cs) = none := by
  rw [name?, if_neg (by simp [h])]

theorem name?_of_isNameStart (hc : isNameStart c = true) (hcs : ∀ d ∈ cs, isNamePart d = true)
    (hrest : ∀ d ∈ rest.head?, isNamePart d = false) :
    name? (c :: (cs ++ rest)) = some (c :: cs, rest) := by
  rw [name?, if_pos hc, cut_append hcs hrest]

/-- What begins a name begins no other lexeme. -/
theorem not_opening_of_isNameStart (h : isNameStart c = true) :
    isBlank c = false ∧ isDigit c = false ∧ c ∉ openingMarks :=
  forall_isNamePart (P := fun c => isNameStart c = true →
      isBlank c = false ∧ isDigit c = false ∧ c ∉ openingMarks)
    (by decide +kernel) (isNamePart_of_isNameStart h) h

/-- A name is cut off before the first character that cannot go on with it. -/
theorem lexeme?_name (hc : isNameStart c = true) (hcs : ∀ d ∈ cs, isNamePart d = true)
    (hrest : ∀ d ∈ rest.head?, isNamePart d = false) :
    lexeme? (c :: (cs ++ rest)) = some (some .name, c :: cs, rest) := by
  obtain ⟨hblank, hdigit, hmark⟩ := not_opening_of_isNameStart hc
  obtain ⟨hpoint, hdouble, hsingle⟩ := ne_of_not_mem_openingMarks hmark
  have hcut : cut isBlank (c :: (cs ++ rest)) = ([], c :: (cs ++ rest)) :=
    cut_of_head? (by simpa using hblank)
  rw [lexeme?, hcut]
  simp only [Numeral.scan?_eq_none hdigit hpoint, string?_eq_none hdouble hsingle,
    name?_of_isNameStart hc hcs hrest]

/-- White space is cut off where it ends. -/
theorem lexeme?_blank (hc : isBlank c = true) (hcs : ∀ d ∈ cs, isBlank d = true)
    (hrest : ∀ d ∈ rest.head?, isBlank d = false) :
    lexeme? (c :: (cs ++ rest)) = some (none, c :: cs, rest) := by
  have hcut : cut isBlank (c :: cs ++ rest) = (c :: cs, rest) :=
    cut_append (List.forall_mem_cons.2 ⟨hc, hcs⟩) hrest
  rw [← List.cons_append, lexeme?, hcut]

/-- A number is cut off where the numeral ends. -/
theorem lexeme?_number {n : Numeral} (h : Numeral.scan? cs = some (n, rest)) :
    lexeme? cs = some (some .number, n.spelling, rest) := by
  have hcut : cut isBlank cs = ([], cs) := cut_of_head? (Numeral.not_isBlank_of_scan? h)
  rw [lexeme?, hcut]
  simp only [h]

/-- A string is cut off behind the quote that closes it. -/
theorem lexeme?_string {body : Text} (hc : c = doubleQuote ∨ c = apostrophe)
    (h : closing? c cs = some (body, rest)) :
    lexeme? (c :: cs) = some (some .string, c :: body, rest) := by
  obtain ⟨hblank, hdigit, hpoint⟩ :
      isBlank c = false ∧ isDigit c = false ∧ c ≠ .char '.' := by
    rcases hc with rfl | rfl <;> decide
  have hcut : cut isBlank (c :: cs) = ([], c :: cs) :=
    cut_of_head? (by simpa using hblank)
  have hstring : string? (c :: cs) = some (c :: body, rest) := by
    rw [string?, if_pos (by simpa using hc), h, Option.map_some]
  rw [lexeme?, hcut]
  simp only [Numeral.scan?_eq_none hdigit hpoint, hstring]

/-- What begins no other token begins an operator, if it begins one at all. -/
theorem lexeme?_eq_operator? (hblank : isBlank c = false) (hdigit : isDigit c = false)
    (hname : isNameStart c = false) (hpoint : c ≠ .char '.') (hdouble : c ≠ doubleQuote)
    (hsingle : c ≠ apostrophe) : lexeme? (c :: cs) =
      (operator? (c :: cs)).map fun (chars, rest) => (some .operator, chars, rest) := by
  have hcut : cut isBlank (c :: cs) = ([], c :: cs) :=
    cut_of_head? (by simpa using hblank)
  rw [lexeme?, hcut]
  simp only [Numeral.scan?_eq_none hdigit hpoint, string?_eq_none hdouble hsingle,
    name?_eq_none hname]

/-- A sign is cut off by itself. -/
theorem lexeme?_sign (hc : c = .char '+' ∨ c = .char '-') :
    lexeme? (c :: cs) = some (some .operator, [c], cs) := by
  have hoperator : operator? (c :: cs) = some ([c], cs) := by
    rcases hc with rfl | rfl
    · exact operator?_single (by decide) (by decide)
    · exact operator?_single (by decide) (by decide)
  obtain ⟨hblank, hdigit, hname, hpoint, hdouble, hsingle⟩ : isBlank c = false ∧
      isDigit c = false ∧ isNameStart c = false ∧ c ≠ .char '.' ∧ c ≠ doubleQuote ∧
      c ≠ apostrophe := by
    rcases hc with rfl | rfl <;> decide
  rw [lexeme?_eq_operator? hblank hdigit hname hpoint hdouble hsingle, hoperator]
  rfl

theorem lexeme?_eq_none (hblank : isBlank c = false) (hdigit : isDigit c = false)
    (hname : isNameStart c = false) (hmark : c ∉ openingMarks) : lexeme? (c :: cs) = none := by
  obtain ⟨hpoint, hdouble, hsingle⟩ := ne_of_not_mem_openingMarks hmark
  rw [lexeme?_eq_operator? hblank hdigit hname hpoint hdouble hsingle, operator?_eq_none hmark]
  rfl

/-! ## Cutting a text -/

theorem scan_eq_error (h : lexeme? (c :: cs) = none) :
    scan pos (c :: cs) = .error (.formula (.malformed (.unexpected [c] pos))) := by
  unfold scan
  split
  · rfl
  · next heq => simp [h] at heq

/-- White space before a text only moves its tokens. -/
theorem scan_blank {front : Text} (hfront : ∀ d ∈ front, isBlank d = true)
    (hrest : ∀ d ∈ rest.head?, isBlank d = false) :
    scan pos (front ++ rest) = scan (pos + front.length) rest := by
  cases front with
  | nil => rfl
  | cons c front =>
    obtain ⟨hc, hcs⟩ := List.forall_mem_cons.1 hfront
    rw [List.cons_append, scan_cons (lexeme?_blank hc hcs hrest)]
    exact congrFun Except.map_id _

/-- A text that is a numeral is one token. -/
theorem scan_numeral {n : Numeral} (h : Numeral.ofText? cs = some n) :
    scan pos cs = .ok [⟨.number, cs, pos⟩] := by
  have hscan := Numeral.ofText?_eq_some_iff.1 h
  cases cs with
  | nil => cases hscan
  | cons c cs =>
    rw [scan_cons (lexeme?_number hscan), scan_nil, Numeral.spelling_of_ofText? h]
    rfl

theorem scan_sign (hc : c = .char '+' ∨ c = .char '-') :
    scan pos (c :: cs) = (scan (pos + 1) cs).map (⟨.operator, [c], pos⟩ :: ·) :=
  scan_cons (lexeme?_sign hc)

/-- A text that is a name is one token. -/
theorem tokenize_name (hc : isNameStart c = true) (hcs : ∀ d ∈ cs, isNamePart d = true) :
    tokenize (c :: cs) = .ok [⟨.name, c :: cs, 0⟩] := by
  have hlexeme : lexeme? (c :: cs) = some (some .name, c :: cs, []) := by
    have hend : ∀ d ∈ ([] : Text).head?, isNamePart d = false := by simp
    have h := lexeme?_name hc hcs hend
    rwa [List.append_nil] at h
  rw [tokenize, scan_cons hlexeme, scan_nil]
  rfl

/-- Cutting a text fails at the first character after a name that begins no token. -/
theorem tokenize_eq_error {front : Text} (hfront : ∀ d ∈ front, isNamePart d = true)
    (hstart : ∀ d ∈ front.head?, isNameStart d = true) (hc : isNamePart c = false)
    (h : lexeme? (c :: rest) = none) :
    tokenize (front ++ c :: rest) =
      .error (.formula (.malformed (.unexpected [c] front.length))) := by
  cases front with
  | nil => exact scan_eq_error h
  | cons d front =>
    have hlexeme : lexeme? (d :: (front ++ c :: rest)) = some (some .name, d :: front, c :: rest) :=
      lexeme?_name (hstart d rfl) (fun e he => hfront e (List.mem_cons_of_mem d he))
        (by simpa using hc)
    rw [tokenize, List.cons_append, scan_cons hlexeme, scan_eq_error h, Nat.zero_add]
    rfl

end Token

/-! ## Positions -/

/-- A token that starts `n` positions later. -/
def Token.shift (n : Nat) (t : Token) : Token :=
  { t with pos := t.pos + n }

/-- A fault whose unexpected text stands `n` positions later. -/
def Fault.shift (n : Nat) : Fault → Fault
  | .formula (.malformed (.unexpected text pos)) =>
    .formula (.malformed (.unexpected text (pos + n)))
  | f => f

namespace Token

/-- What cutting a text gives if the text starts `n` positions later. -/
def shifted (n : Nat) : Except Fault (List Token) → Except Fault (List Token)
  | .ok ts => .ok (ts.map (shift n))
  | .error f => .error (f.shift n)

theorem scan_add (n pos : Nat) (cs : Text) : scan (pos + n) cs = shifted n (scan pos cs) := by
  -- The recursion is on the length of the text, for a lexeme leaves less than there was.
  cases cs with
  | nil =>
    rw [scan_nil, scan_nil]
    rfl
  | cons c cs =>
    cases h : lexeme? (c :: cs) with
    | none =>
      rw [scan_eq_error h, scan_eq_error h]
      rfl
    | some lexeme =>
      obtain ⟨kind, chars, rest⟩ := lexeme
      have : rest.length < (c :: cs).length := length_lt_of_lexeme? h
      rw [scan_cons h, scan_cons h, Nat.add_right_comm, scan_add n _ rest]
      cases scan (pos + chars.length) rest <;> cases kind <;> rfl
termination_by cs.length
decreasing_by exact this

end Token

end Spreadsheet
