import Spreadsheet.Proofs.Number.Numeral
import Spreadsheet.Proofs.StringLiterals

/-!
# Tokens by themselves

A token stands alone: before white space, or at the end of a text, its text is cut off as the same
token, wherever it was cut from (`standsAlone_of_lexeme?`). A numeral goes on only with characters
of numerals, no operator has white space in it, and a string that was closed early is closed in the
same place without what followed it.
-/

namespace Spreadsheet

open Text

theorem Numeral.IsSpelled.not_isBlank {n : Numeral} (h : n.IsSpelled) :
    ∀ c ∈ n.spelling, isBlank c = false := by
  have hdigits {ds : Text} (hds : ∀ c ∈ ds, isDigit c = true) : ∀ c ∈ ds, isBlank c = false :=
    fun c hc => not_isBlank_of_isDigit (hds c hc)
  obtain ⟨whole, fraction, exponent⟩ := n
  intro c hc
  simp only [spelling, List.mem_append] at hc
  rcases hc with (hc | hc) | hc
  · exact hdigits h.whole c hc
  · cases fraction with
    | none => cases hc
    | some ds =>
      rcases List.mem_cons.1 hc with rfl | hc
      · decide
      · exact hdigits (h.fraction ds rfl) c hc
  · cases exponent with
    | none => cases hc
    | some e =>
      have he := h.exponent e rfl
      simp only [Option.elim_some, Exponent.spelling, List.mem_append, List.mem_cons,
        Option.mem_toList] at hc
      rcases hc with (rfl | hc) | hc
      · rcases he.mark with hmark | hmark <;> rw [hmark] <;> decide
      · rcases he.sign c hc with rfl | rfl <;> decide
      · exact hdigits he.isDigit c hc

theorem Numeral.isPart_of_isBlank {c : CodePoint} (h : isBlank c = true) : isPart c = false := by
  rw [isPart_eq_false_iff]
  refine ⟨Bool.eq_false_iff.2 fun hdigit => ?_, ?_, ?_, ?_⟩
  · rw [not_isBlank_of_isDigit hdigit] at h
    cases h
  all_goals
    rintro rfl
    exact absurd h (by decide)

namespace Token

variable {c quote : CodePoint} {cs chars body rest : Text} {kind : TokenKind} {pos : Nat}

/-! ## Kinds of lexeme -/

/-- Which scanner a lexeme comes from. -/
theorem lexeme?_eq_some {kind : Option TokenKind} (h : lexeme? cs = some (kind, chars, rest)) :
    kind = none ∧ cut isBlank cs = (chars, rest) ∨
      kind = some .number ∧ (∃ n, Numeral.scan? cs = some (n, rest) ∧ n.spelling = chars) ∨
      kind = some .string ∧ string? cs = some (chars, rest) ∨
      kind = some .name ∧ name? cs = some (chars, rest) ∨
      kind = some .operator ∧ operator? cs = some (chars, rest) := by
  unfold lexeme? at h
  split at h
  · next hblank =>
    cases h
    exact .inl ⟨rfl, hblank⟩
  · split at h
    · next hnumber =>
      cases h
      exact .inr (.inl ⟨rfl, _, hnumber, rfl⟩)
    · split at h
      · next hstring =>
        cases h
        exact .inr (.inr (.inl ⟨rfl, hstring⟩))
      · split at h
        · next hname =>
          cases h
          exact .inr (.inr (.inr (.inl ⟨rfl, hname⟩)))
        · obtain ⟨⟨_, _⟩, hoperator, heq⟩ := Option.map_eq_some_iff.1 h
          cases heq
          exact .inr (.inr (.inr (.inr ⟨rfl, hoperator⟩)))

theorem not_isBlank_of_lexeme? (h : lexeme? (c :: cs) = some (some kind, chars, rest)) :
    isBlank c = false := by
  refine Bool.eq_false_iff.2 fun hblank => ?_
  simp [lexeme?, cut, List.takeWhile_cons_of_pos hblank] at h

/-- Before white space, or at the end of a text, a token is cut off as it is. -/
structure StandsAlone (kind : TokenKind) (chars : Text) : Prop where
  lexeme? : ∀ rest : Text, (∀ c ∈ rest.head?, isBlank c = true) →
    lexeme? (chars ++ rest) = some (some kind, chars, rest)
  not_isBlank_last : ∀ c ∈ chars.getLast?, isBlank c = false

theorem StandsAlone.ne_nil (h : StandsAlone kind chars) : chars ≠ [] :=
  (lexeme?_append (h.lexeme? [] (by simp))).2

theorem StandsAlone.not_isBlank_head (h : StandsAlone kind (c :: cs)) : isBlank c = false :=
  not_isBlank_of_lexeme? (h.lexeme? [] (by simp))

/-! ## Numbers, names and operators -/

theorem standsAlone_number {n : Numeral} (h : Numeral.scan? cs = some (n, rest)) :
    StandsAlone .number n.spelling where
  lexeme? _ hrest := lexeme?_number <|
    Numeral.scan?_spelling (Numeral.isSpelled_of_scan? h)
      fun c hc => Numeral.isPart_of_isBlank (hrest c hc)
  not_isBlank_last c hc :=
    (Numeral.isSpelled_of_scan? h).not_isBlank c (List.mem_of_getLast? hc)

theorem standsAlone_name (h : name? cs = some (chars, rest)) : StandsAlone .name chars := by
  unfold name? at h
  split at h
  · next c cs =>
    split at h
    · next hstart =>
      obtain ⟨rfl, -⟩ := Prod.mk.inj (Option.some.inj h)
      have hparts : ∀ d ∈ cs.takeWhile isNamePart, isNamePart d = true := all_of_cut rfl
      refine ⟨fun rest hrest => ?_, fun d hd => not_isBlank_of_isNamePart ?_⟩
      · refine lexeme?_name hstart hparts fun d hd => Bool.eq_false_iff.2 fun hpart => ?_
        exact Bool.false_ne_true ((not_isBlank_of_isNamePart hpart).symm.trans (hrest d hd))
      · rcases List.mem_cons.1 (List.mem_of_getLast? hd) with rfl | hd
        · exact isNamePart_of_isNameStart hstart
        · exact hparts d hd
    · cases h
  · cases h

theorem operator?_eq_some (h : operator? cs = some (chars, rest)) :
    (∃ p ∈ doubleOperators, chars = [p.1, p.2]) ∨ ∃ c ∈ singleOperators, chars = [c] := by
  unfold operator? at h
  split at h
  · cases h
  · split at h
    · next hsingle =>
      cases h
      exact .inr ⟨_, hsingle, rfl⟩
    · cases h
  · split at h
    · next hdouble =>
      cases h
      exact .inl ⟨_, hdouble, rfl⟩
    · split at h
      · next hsingle =>
        cases h
        exact .inr ⟨_, hsingle, rfl⟩
      · cases h

theorem operator?_before_blank (h : c ∈ singleOperators)
    (hrest : ∀ d ∈ rest.head?, isBlank d = true) : operator? (c :: rest) = some ([c], rest) := by
  cases rest with
  | nil => rw [operator?, if_pos h]
  | cons d rest =>
    have hdouble : (c, d) ∉ doubleOperators := fun hmem => by
      have hsecond : ∀ p ∈ doubleOperators, isBlank p.2 = false := by decide
      exact Bool.false_ne_true ((hsecond _ hmem).symm.trans (hrest d rfl))
    rw [operator?, if_neg hdouble, if_pos h]

/-- The marks that an operator can begin with. -/
def operatorMarks : List CodePoint :=
  '!' :: singleOperators

/-- What begins an operator begins no other lexeme. -/
theorem lexeme?_of_operator? (hc : c ∈ operatorMarks)
    (h : operator? (c :: cs) = some (chars, rest)) :
    lexeme? (c :: cs) = some (some .operator, chars, rest) := by
  have hfirst : ∀ c ∈ operatorMarks, isBlank c = false ∧
      isDigit c = false ∧ isNameStart c = false ∧ c ≠ .char '.' ∧ c ≠ doubleQuote ∧
      c ≠ apostrophe := by
    decide
  obtain ⟨hblank, hdigit, hname, hpoint, hdouble, hsingle⟩ := hfirst c hc
  rw [lexeme?_eq_operator? hblank hdigit hname hpoint hdouble hsingle, h]
  rfl

theorem standsAlone_operator (h : operator? cs = some (chars, rest)) :
    StandsAlone .operator chars := by
  rcases operator?_eq_some h with ⟨⟨c, d⟩, hdouble, rfl⟩ | ⟨c, hsingle, rfl⟩
  · have hchars : ∀ p ∈ doubleOperators,
        p.1 ∈ operatorMarks ∧ isBlank p.2 = false := by decide
    obtain ⟨hc, hd⟩ := hchars _ hdouble
    refine ⟨fun rest _ => lexeme?_of_operator? hc ?_, by simpa using hd⟩
    exact if_pos hdouble
  · have hblank : ∀ c ∈ singleOperators, isBlank c = false := by decide
    exact ⟨fun rest hrest => lexeme?_of_operator? (List.mem_cons_of_mem _ hsingle)
      (operator?_before_blank hsingle hrest), by simpa using hblank c hsingle⟩

/-! ## Strings -/

/-- Wherever a string is closed, early or not, all quotes inside it are doubled. -/
theorem closing?_eq_some (h : closing? quote cs = some (body, rest)) :
    ∃ t, body = doubled quote t ++ [quote] := by
  fun_induction closing? quote cs generalizing body rest with
  | case1 => cases h
  | case2 =>
    cases h
    exact ⟨[], rfl⟩
  | case3 ds body' rest' hclosing ih =>
    cases h
    obtain ⟨t, rfl⟩ := ih hclosing
    exact ⟨quote :: t, by rw [doubled_cons_self]; rfl⟩
  | case4 ds hnone =>
    cases h
    exact ⟨[], rfl⟩
  | case5 d ds hd =>
    cases h
    exact ⟨[], rfl⟩
  | case6 c cs hc ih =>
    obtain ⟨⟨body', rest'⟩, hclosing, heq⟩ := Option.map_eq_some_iff.1 h
    cases heq
    obtain ⟨t, rfl⟩ := ih hclosing
    exact ⟨c :: t, by rw [doubled_cons_of_ne hc]; rfl⟩

theorem standsAlone_string (h : string? cs = some (chars, rest)) : StandsAlone .string chars := by
  unfold string? at h
  split at h
  · next c cs =>
    split at h
    · next hquote =>
      have hquote : c = doubleQuote ∨ c = apostrophe := by simpa using hquote
      have hblank : isBlank c = false := by rcases hquote with rfl | rfl <;> decide
      obtain ⟨⟨body, rest⟩, hclosing, heq⟩ := Option.map_eq_some_iff.1 h
      cases heq
      obtain ⟨t, rfl⟩ := closing?_eq_some hclosing
      refine ⟨fun rest hrest => lexeme?_string hquote ?_, ?_⟩
      · have hhead : rest.head? ≠ some c := fun hhead =>
          Bool.false_ne_true (hblank.symm.trans (hrest c hhead))
        have hclosed := closing?_doubled hhead t
        rwa [← List.singleton_append, ← List.append_assoc] at hclosed
      · rw [← List.cons_append, List.getLast?_concat]
        simpa using hblank
    · cases h
  · cases h

/-! ## Every token -/

theorem standsAlone_of_lexeme? (h : lexeme? cs = some (some kind, chars, rest)) :
    StandsAlone kind chars := by
  rcases lexeme?_eq_some h with ⟨hkind, -⟩ | ⟨hkind, n, hscan, rfl⟩ | ⟨hkind, hstring⟩ |
    ⟨hkind, hname⟩ | ⟨hkind, hoperator⟩ <;> cases hkind
  · exact standsAlone_number hscan
  · exact standsAlone_string hstring
  · exact standsAlone_name hname
  · exact standsAlone_operator hoperator

theorem standsAlone_of_scan {ts : List Token} (h : scan pos cs = .ok ts) :
    ∀ k ∈ ts, StandsAlone k.kind k.text := by
  fun_induction scan pos cs generalizing ts with
  | case1 =>
    cases h
    simp
  | case2 => cases h
  | case3 => cases h
  | case4 _ _ _ _ _ _ hlexeme hrest _ _ ih =>
    cases h
    exact ih hrest
  | case5 _ _ _ _ _ _ _ hlexeme hrest _ _ ih =>
    cases h
    exact List.forall_mem_cons.2 ⟨standsAlone_of_lexeme? hlexeme, ih hrest⟩

end Token

end Spreadsheet
