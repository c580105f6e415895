import Spreadsheet.Content
import Spreadsheet.Proofs.Formula.Token
import Spreadsheet.Proofs.Text.Trim

/-!
# Formulas of one primary

A formula is cut into tokens after its mark (`parse_mark`); white space around what follows the mark
only moves the tokens (`exists_parse_mark`). If there is one token, the formula is what the reader
of primaries makes of it, and so is its fault (`ofTokens_of_primary`), and a sign before it goes on
top (`ofTokens_of_sign`): no limit is that low. A name is one token (`parse_name`), so a cell whose
text is the mark and a name holds what the name stands for (`read_name`).
-/

namespace Spreadsheet

open Text

theorem NestingLimit.exists_depth_eq (limit : NestingLimit) : ∃ n, limit.depth = n + 3 :=
  Nat.exists_eq_add_of_le' limit.three_le_depth

namespace Formula

variable {limit : NestingLimit} {isFunction : Text → Bool} {t : Token} {r : Except Fault Formula}

theorem parse_mark {text : Text} (h : ∀ c ∈ text, isBlank c = false) :
    parse limit isFunction (.char '=' :: text) =
      match tokenize text with
      | .error f => .error f
      | .ok ts => ofTokens limit isFunction ts := by
  have htrim : trim (.char '=' :: text) = .char '=' :: text :=
    trim_eq_self (List.forall_mem_cons.2 ⟨by decide, h⟩)
  rw [parse, htrim]
  rfl

theorem exists_parse_mark {text : Text} (h : trim text ≠ []) : ∃ pos, ∀ limit isFunction,
    parse limit isFunction (.char '=' :: text) =
      match Token.scan pos (trim text) with
      | .error f => .error f
      | .ok ts => ofTokens limit isFunction ts := by
  obtain ⟨front, hfront, htrim⟩ := exists_trim_cons (c := .char '=') (by decide) h
  have hscan : tokenize (front ++ trim text) = Token.scan (0 + front.length) (trim text) :=
    Token.scan_blank hfront fun c hc => not_isBlank_of_head?_trim hc
  refine ⟨0 + front.length, fun limit isFunction => ?_⟩
  rw [parse, htrim, ← hscan]
  rfl

/-- A token that is no sign is read as a primary. -/
theorem signed_of_primary {ts : List Token} (ht : isOperator sumSymbols t = false) (depth : Nat) :
    signed isFunction (depth + 1) (t :: ts) =
      primary isFunction (expression isFunction depth) (t :: ts) := by
  rw [signed_cons, ht, if_neg Bool.false_ne_true]

theorem ofTokens_of_primary (ht : isOperator sumSymbols t = false)
    (h : ∀ expression, primary isFunction expression [t] = r.map (·, [])) :
    ofTokens limit isFunction [t] = r := by
  obtain ⟨depth, hdepth⟩ := limit.exists_depth_eq
  have hsigned : signed isFunction (depth + 2) [t] = r.map (·, []) := by
    rw [signed_of_primary ht]
    exact h _
  rw [ofTokens, hdepth]
  exact ofTokensWithin_of_signed hsigned

theorem ofTokens_of_sign {s : Token} (hs : isOperator sumSymbols s = true)
    (ht : isOperator sumSymbols t = false)
    (h : ∀ expression, primary isFunction expression [t] = r.map (·, [])) :
    ofTokens limit isFunction [s, t] = r.map (.unary s.text) := by
  obtain ⟨depth, hdepth⟩ := limit.exists_depth_eq
  have hoperand : signed isFunction (depth + 1) [t] = r.map (·, []) := by
    rw [signed_of_primary ht]
    exact h _
  have hsigned : signed isFunction (depth + 2) [s, t] = (r.map (.unary s.text)).map (·, []) := by
    rw [signed_cons, hs, if_pos rfl, hoperand]
    cases r <;> rfl
  rw [ofTokens, hdepth]
  exact ofTokensWithin_of_signed hsigned

theorem parse_name {c : CodePoint} {cs : Text} (hc : Token.isNameStart c = true)
    (hcs : ∀ d ∈ cs, Token.isNamePart d = true)
    (h : ∀ expression, named isFunction expression ⟨.name, c :: cs, 0⟩ [] = r.map (·, [])) :
    parse limit isFunction (.char '=' :: c :: cs) = r := by
  have hparts : ∀ d ∈ c :: cs, Token.isNamePart d = true :=
    List.forall_mem_cons.2 ⟨Token.isNamePart_of_isNameStart hc, hcs⟩
  rw [parse_mark fun d hd => Token.not_isBlank_of_isNamePart (hparts d hd),
    Token.tokenize_name hc hcs]
  exact ofTokens_of_primary rfl h

end Formula

theorem Content.read_name {lang : Language} {f : Formula} {c : CodePoint} {cs : Text}
    (hc : Token.isNameStart c = true) (hcs : ∀ d ∈ cs, Token.isNamePart d = true)
    (h : ∀ expression,
      Formula.named lang.contains expression ⟨.name, c :: cs, 0⟩ [] = .ok (f, [])) :
    read lang (.char '=' :: c :: cs) = .ok (.formula f) := by
  have htrim : trim (.char '=' :: c :: cs) = .char '=' :: c :: cs := by
    refine trim_eq_self (List.forall_mem_cons.2 ⟨by decide, fun d hd => ?_⟩)
    refine Token.not_isBlank_of_isNamePart ?_
    rcases List.mem_cons.1 hd with rfl | hd
    · exact Token.isNamePart_of_isNameStart hc
    · exact hcs d hd
  have hparse : Formula.parse lang.limit lang.contains (.char '=' :: c :: cs) = .ok f :=
    Formula.parse_name hc hcs h
  rw [read, htrim, List.head?_cons, if_pos rfl, readFormula, hparse]

end Spreadsheet
