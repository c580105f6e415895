import Spreadsheet.Library.Standard
import Spreadsheet.Proofs.Formula.Nesting

/-!
# Formulas are read by their grammar

A list of tokens is read as a formula exactly if it writes the formula by the rules of the grammar
(`ofTokens_iff_writes`). So a list of tokens writes at most one formula, for reading it gives at
most one.
-/

namespace Spreadsheet

namespace Formula

open Filter

variable {isFunction : Text → Bool} {ts : List Token} {f g : Formula} {depth : Nat}

theorem Writes.eventually_ofTokensWithin (h : Writes isFunction precedence ts f) :
    ∀ᶠ depth in atTop, ofTokensWithin depth isFunction ts = .ok f := by
  obtain ⟨t, us, rfl, -⟩ := h.exists_cons
  filter_upwards [eventually_readsExpression (h.eventually_reads (by decide))] with depth hreads
  have hread := hreads [] stops_nil
  rw [List.append_nil] at hread
  simp [ofTokensWithin, hread]

theorem exists_ofTokensWithin_iff_writes :
    (∃ depth, ofTokensWithin depth isFunction ts = .ok f) ↔ Writes isFunction precedence ts f :=
  ⟨fun ⟨_, h⟩ => writes_of_ofTokensWithin h, fun h => h.eventually_ofTokensWithin.exists⟩

theorem ofTokensWithin_eq_of_writes (h : Writes isFunction precedence ts f)
    (hdeep : ofTokensWithin depth isFunction ts ≠ .error .nestingTooDeep) :
    ofTokensWithin depth isFunction ts = .ok f := by
  obtain ⟨depth', hread, hle⟩ :=
    (h.eventually_ofTokensWithin.and (eventually_ge_atTop depth)).exists
  rw [← (refines_ofTokensWithin hle ts).resolve_left hdeep, hread]

theorem Writes.unique (h : Writes isFunction precedence ts f)
    (h' : Writes isFunction precedence ts g) : f = g := by
  obtain ⟨depth, hf, hg⟩ :=
    (h.eventually_ofTokensWithin.and h'.eventually_ofTokensWithin).exists
  rw [hf, Except.ok.injEq] at hg
  exact hg

/-- The formulas that are read, at some depth of nesting or within the limit, are those that the
tokens write. There is at most one for a list of tokens, and it is legal. -/
theorem ofTokens_iff_writes (limit : NestingLimit) (isFunction : Text → Bool) (ts : List Token)
    (f : Formula) :
    ((∃ depth, ofTokensWithin depth isFunction ts = .ok f) ↔ Writes isFunction precedence ts f) ∧
      (ofTokens limit isFunction ts ≠ .error .nestingTooDeep →
        (ofTokens limit isFunction ts = .ok f ↔ Writes isFunction precedence ts f)) ∧
      (Writes isFunction precedence ts f →
        f.Legal isFunction ∧ ∀ g, Writes isFunction precedence ts g → g = f) := by
  refine ⟨exists_ofTokensWithin_iff_writes, fun hdeep => ⟨writes_of_ofTokensWithin, fun h => ?_⟩,
    fun h => ⟨h.legal fun _ hs => hs, fun g hg => hg.unique h⟩⟩
  exact ofTokensWithin_eq_of_writes h hdeep

/-- The tokens of `-A1*sum()`. -/
def productTokens : List Token :=
  [⟨.operator, "-", 0⟩, ⟨.name, "A1", 1⟩, ⟨.operator, "*", 3⟩, ⟨.name, "sum", 4⟩,
    ⟨.operator, "(", 7⟩, ⟨.operator, ")", 8⟩]

/-- A sign binds more tightly than an operator, and the name of a function is put in upper case. -/
theorem writes_productTokens :
    Writes Library.standard.contains precedence productTokens
        (.binary "*" (.unary "-" (.ref ⟨0, 0⟩)) (.call "SUM" [])) ∧
      Legal Library.standard.contains
        (.binary "*" (.unary "-" (.ref ⟨0, 0⟩)) (.call "SUM" [])) := by
  obtain ⟨-, hlimit, hlegal⟩ := ofTokens_iff_writes .usual Library.standard.contains
    productTokens (.binary "*" (.unary "-" (.ref ⟨0, 0⟩)) (.call "SUM" []))
  have hread : ofTokens .usual Library.standard.contains productTokens =
      .ok (.binary "*" (.unary "-" (.ref ⟨0, 0⟩)) (.call "SUM" [])) := rfl
  have hwrites := (hlimit (by simp [hread])).1 hread
  exact ⟨hwrites, (hlegal hwrites).1⟩

end Formula

end Spreadsheet
