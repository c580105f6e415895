import Spreadsheet.Formula.Parser
import Spreadsheet.Proofs.Address.Name
import Spreadsheet.Proofs.Number.Sign

/-!
# The grammar of formulas

`Formula.Writes` relates lists of tokens to the formulas that they write, rule by rule and without
regard to how they are read. Binary operators stand on the levels of `precedence`, and those of one
level associate to the left. A formula that a list of tokens writes is `Legal` (`Writes.legal`): its
numbers are finite and not negative, its references in bounds, its operators those of the language,
and its calls are of functions that there are.
-/

namespace Spreadsheet

open Text

namespace Formula

/-- The binary operators, level by level from the loosest to the tightest. -/
def precedence : List (List Text) :=
  [comparisonSymbols, sumSymbols, productSymbols]

/-- A token is one of the given operators. -/
def IsOperator (symbols : List Text) (t : Token) : Prop :=
  t.kind = .operator ∧ t.text ∈ symbols

theorem isOperator_iff {symbols : List Text} {t : Token} :
    isOperator symbols t = true ↔ IsOperator symbols t := by
  rw [isOperator, Bool.and_eq_true, beq_iff_eq, List.contains_iff_mem]
  rfl

/-- A token is a name, and but for the cases of its letters the name of an address in bounds. -/
structure NamesCell (t : Token) (a : Address) : Prop where
  kind : t.kind = .name
  upper : Text.upper t.text = a.label
  inBounds : a.InBounds

/-- An argument of a call after the first one: its comma, its tokens and what they write. -/
structure Argument where
  comma : Token
  tokens : List Token
  formula : Formula

/-- The tokens of a list of further arguments. -/
def Argument.written (more : List Argument) : List Token :=
  more.flatMap fun arg => arg.comma :: arg.tokens

/-- A list of tokens writes a formula whose binary operators outside of parentheses belong to the
given levels. A closing parenthesis is known by its text alone, but where an argument may stand
only an operator closes. -/
inductive Writes (isFunction : Text → Bool) : List (List Text) → List Token → Formula → Prop
  | operand {symbols levels ts f} :
    Writes isFunction levels ts f → Writes isFunction (symbols :: levels) ts f
  | binary {symbols levels left t right l r} :
    Writes isFunction (symbols :: levels) left l → IsOperator symbols t →
      Writes isFunction levels right r →
        Writes isFunction (symbols :: levels) (left ++ t :: right) (.binary t.text l r)
  | sign {t ts f} : IsOperator sumSymbols t → Writes isFunction [] ts f →
    Writes isFunction [] (t :: ts) (.unary t.text f)
  | number {t n} : t.kind = .number → Numeral.ofText? t.text = some n → n.value.isFinite →
    Writes isFunction [] [t] (.number n.value)
  | string {t} : t.kind = .string → Writes isFunction [] [t] (.text (unquote t.text))
  | group {left right : Token} {ts f} : IsOperator ["("] left → Writes isFunction precedence ts f →
    right.text = ")" → Writes isFunction [] (left :: (ts ++ [right])) f
  | emptyCall {t left right} : t.kind = .name → isFunction (upper t.text) → IsOperator ["("] left →
    IsOperator [")"] right → Writes isFunction [] [t, left, right] (.call (upper t.text) [])
  | call {t left right : Token} {first f} {more : List Argument} : t.kind = .name →
    isFunction (upper t.text) → IsOperator ["("] left → Writes isFunction precedence first f →
      (∀ arg ∈ more, IsOperator [","] arg.comma) →
        (∀ arg ∈ more, Writes isFunction precedence arg.tokens arg.formula) → right.text = ")" →
          Writes isFunction [] (t :: left :: (first ++ Argument.written more ++ [right]))
            (.call (upper t.text) (f :: more.map Argument.formula))
  | ref {t a} : NamesCell t a → Writes isFunction [] [t] (.ref a)
  | range {t colon u a b} : NamesCell t a → IsOperator [":"] colon → NamesCell u b →
    Writes isFunction [] [t, colon, u] (.range ⟨a, b⟩)
  | truth {t} : t.kind = .name → upper t.text = "TRUE" → Writes isFunction [] [t] (.number 1)
  | falsehood {t} : t.kind = .name → upper t.text = "FALSE" → Writes isFunction [] [t] (.number 0)
  | word {t} : t.kind = .name → t.text ≠ [] → (∀ c ∈ t.text, Token.isNameStart c) →
    upper t.text ≠ "TRUE" → upper t.text ≠ "FALSE" → Writes isFunction [] [t] (.text t.text)

/-! ## Legal formulas -/

/-- A formula that can stand in a text. -/
inductive Legal (isFunction : Text → Bool) : Formula → Prop
  | number {x} : x.isFinite → 0 ≤ x → Legal isFunction (.number x)
  | text (t) : Legal isFunction (.text t)
  | ref {a} : a.InBounds → Legal isFunction (.ref a)
  | range {r} : r.start.InBounds → r.stop.InBounds → Legal isFunction (.range r)
  | call {t args} : isFunction (upper t) → (∀ arg ∈ args, Legal isFunction arg) →
    Legal isFunction (.call (upper t) args)
  | unary {symbol operand} : symbol ∈ sumSymbols → Legal isFunction operand →
    Legal isFunction (.unary symbol operand)
  | binary {symbol left right} : symbol ∈ precedence.flatten → Legal isFunction left →
    Legal isFunction right → Legal isFunction (.binary symbol left right)

theorem Writes.legal {isFunction : Text → Bool} {levels : List (List Text)} {ts : List Token}
    {f : Formula} (h : Writes isFunction levels ts f) :
    (∀ symbols ∈ levels, symbols ∈ precedence) → f.Legal isFunction := by
  induction h with
  | operand _ ih => exact fun hlevels => ih fun symbols hs => hlevels _ (List.mem_cons_of_mem _ hs)
  | @binary symbols _ _ _ _ _ _ _ ht _ ihl ihr =>
    intro hlevels
    refine .binary (List.mem_flatten.2 ⟨symbols, hlevels _ List.mem_cons_self, ht.2⟩) (ihl hlevels)
      (ihr fun symbols hs => hlevels _ (List.mem_cons_of_mem _ hs))
  | sign ht _ ih => exact fun hlevels => .unary ht.2 (ih hlevels)
  | number _ _ hfinite => exact fun _ => .number hfinite (Numeral.value_nonneg hfinite)
  | string => exact fun _ => .text _
  | group _ _ _ ih => exact fun _ => ih fun _ hs => hs
  | emptyCall _ hname => exact fun _ => .call hname (by simp)
  | call _ hname _ _ _ _ _ ihf ihmore =>
    intro _
    refine .call hname (List.forall_mem_cons.2 ⟨ihf fun _ hs => hs, ?_⟩)
    exact List.forall_mem_map.2 fun arg harg => ihmore arg harg fun _ hs => hs
  | ref ha => exact fun _ => .ref ha.inBounds
  | range ha _ hb => exact fun _ => .range ha.inBounds hb.inBounds
  | truth => exact fun _ => .number rfl (by decide)
  | falsehood => exact fun _ => .number rfl (by decide)
  | word => exact fun _ => .text _

end Formula

end Spreadsheet
