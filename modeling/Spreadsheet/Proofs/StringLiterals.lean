import Spreadsheet.Proofs.Formula.Names

/-!
# Strings can stand for every text

The literal of a text stands between quotes of one kind, and inside it every quote of that kind is
written twice. The quote that closes it is the last one (`closing?_doubled`), whatever stands
inside, so it is cut off as one token from what follows it. Undoing the doubling gives the text back
(`undouble_doubled`).
-/

namespace Spreadsheet

open Text

/-- A text with every quote of the given kind written twice. -/
def doubled (quote : CodePoint) (t : Text) : Text :=
  t.flatMap fun c => if c = quote then [quote, quote] else [c]

/-- The literal of a text between quotes of the given kind. -/
def stringLiteral (quote : CodePoint) (t : Text) : Text :=
  quote :: (doubled quote t ++ [quote])

variable {quote c : CodePoint} {t rest : Text}

/-! ## Doubling -/

theorem doubled_cons_self (quote : CodePoint) (t : Text) :
    doubled quote (quote :: t) = quote :: quote :: doubled quote t := by
  simp [doubled]

theorem doubled_cons_of_ne (h : c ≠ quote) : doubled quote (c :: t) = c :: doubled quote t := by
  simp [doubled, h]

theorem Token.closing?_cons_of_ne (h : c ≠ quote) (cs : Text) :
    closing? quote (c :: cs) =
      (closing? quote cs).map fun (body, rest) => (c :: body, rest) := by
  cases cs with
  | nil => simp [closing?, h]
  | cons d cs => rw [closing?, if_neg h]

theorem Token.closing?_doubled (h : rest.head? ≠ some quote) (t : Text) :
    closing? quote (doubled quote t ++ quote :: rest) =
      some (doubled quote t ++ [quote], rest) := by
  induction t with
  | nil =>
    cases rest with
    | nil => simp [doubled, closing?]
    | cons d rest =>
      have hd : d ≠ quote := by simpa using h
      simp [doubled, closing?, hd]
  | cons c t ih =>
    by_cases hc : c = quote
    · subst hc
      rw [doubled_cons_self]
      simp only [List.cons_append, closing?, if_true, ih]
    · rw [doubled_cons_of_ne hc, List.cons_append, closing?_cons_of_ne hc, ih]
      rfl

namespace Formula

theorem undouble_cons_of_ne (h : c ≠ quote) (t : Text) :
    undouble quote (c :: t) = c :: undouble quote t := by
  cases t with
  | nil => rfl
  | cons d t => rw [undouble, if_neg (by simp [h])]

theorem undouble_doubled (quote : CodePoint) (t : Text) :
    undouble quote (doubled quote t) = t := by
  induction t with
  | nil => rfl
  | cons c t ih =>
    by_cases hc : c = quote
    · subst hc
      rw [doubled_cons_self, undouble, if_pos (by simp), ih]
    · rw [doubled_cons_of_ne hc, undouble_cons_of_ne hc, ih]

theorem unquote_stringLiteral (quote : CodePoint) (t : Text) :
    unquote (stringLiteral quote t) = t := by
  rw [stringLiteral, unquote, List.dropLast_concat, undouble_doubled]

end Formula

/-! ## Tokens and formulas -/

theorem trim_stringLiteral (h : isBlank quote = false) :
    trim (stringLiteral quote t) = stringLiteral quote t := by
  refine trim_eq_self_of_ends (by simpa [stringLiteral] using h) ?_
  rw [stringLiteral, ← List.cons_append, List.getLast?_concat]
  simpa using h

theorem scan_stringLiteral (hquote : quote = doubleQuote ∨ quote = apostrophe)
    (hrest : rest.head? ≠ some quote) (t : Text) (pos : Nat) :
    Token.scan pos (stringLiteral quote t ++ rest) =
      (Token.scan (pos + (stringLiteral quote t).length) rest).map
        (⟨.string, stringLiteral quote t, pos⟩ :: ·) := by
  have hclosing := Token.closing?_doubled hrest t
  rw [← List.singleton_append, ← List.append_assoc] at hclosing
  exact Token.scan_cons (Token.lexeme?_string hquote hclosing)

theorem parse_stringLiteral (hquote : quote = doubleQuote ∨ quote = apostrophe) (t : Text)
    (limit : NestingLimit) (isFunction : Text → Bool) :
    Formula.parse limit isFunction (.char '=' :: stringLiteral quote t) = .ok (.text t) := by
  have hblank : isBlank quote = false := by rcases hquote with rfl | rfl <;> decide
  have htrim := trim_stringLiteral (t := t) hblank
  have hne : trim (stringLiteral quote t) ≠ [] := by
    rw [htrim]
    exact List.cons_ne_nil _ _
  obtain ⟨pos, hparse⟩ := Formula.exists_parse_mark hne
  have hend : ([] : Text).head? ≠ some quote := by simp
  have hscan := scan_stringLiteral hquote hend t pos
  rw [List.append_nil, Token.scan_nil] at hscan
  rw [hparse, htrim, hscan]
  refine Formula.ofTokens_of_primary rfl fun expression => ?_
  rw [Formula.primary, Formula.unquote_stringLiteral]
  rfl

/-- The literal of a text is one token, and what follows it is cut as if it stood by itself, only
further on. As a formula the literal is the text. -/
theorem tokenize_stringLiteral (hquote : quote = doubleQuote ∨ quote = apostrophe)
    (hrest : rest.head? ≠ some quote) (t : Text) (limit : NestingLimit)
    (isFunction : Text → Bool) :
    tokenize (stringLiteral quote t ++ rest) =
        (Token.shifted (stringLiteral quote t).length (tokenize rest)).map
          (⟨.string, stringLiteral quote t, 0⟩ :: ·) ∧
      Formula.parse limit isFunction (.char '=' :: stringLiteral quote t) = .ok (.text t) := by
  refine ⟨?_, parse_stringLiteral hquote t limit isFunction⟩
  rw [tokenize, scan_stringLiteral hquote hrest, Token.scan_add]
  rfl

/-- Quotes at both ends of the text, one of the other kind inside, and a string of the other kind
right behind the literal. -/
theorem tokenize_stringLiteral_quotes :
    stringLiteral doubleQuote "\"it's\"" = "\"\"\"it's\"\"\"" ∧
      tokenize ("\"\"\"it's\"\"\"" ++ "'b'+1") =
        .ok [⟨.string, "\"\"\"it's\"\"\"", 0⟩, ⟨.string, "'b'", 10⟩, ⟨.operator, "+", 13⟩,
          ⟨.number, "1", 14⟩] ∧
      Formula.parse .usual (fun _ => false) "=\"\"\"it's\"\"\"" = .ok (.text "\"it's\"") := by
  have hliteral : stringLiteral doubleQuote "\"it's\"" = "\"\"\"it's\"\"\"" := by decide
  have hrest : ("'b'+1" : Text).head? ≠ some (.char doubleQuote) := by decide
  have htokens : tokenize "'b'+1" =
      .ok [⟨.string, "'b'", 0⟩, ⟨.operator, "+", 3⟩, ⟨.number, "1", 4⟩] := by
    decide +kernel
  obtain ⟨htokenize, hparse⟩ :=
    tokenize_stringLiteral (.inl rfl) hrest "\"it's\"" .usual (fun _ => false)
  rw [hliteral, htokens] at htokenize
  rw [hliteral] at hparse
  exact ⟨hliteral, htokenize, hparse⟩

end Spreadsheet
