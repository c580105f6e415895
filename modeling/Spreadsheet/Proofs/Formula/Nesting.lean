import Spreadsheet.Proofs.Formula.Completeness

/-!
# The nesting limit only cuts off

A reader that may nest more deeply gives the same result, unless the other one ends because the
formula is nested too deeply (`refines_ofTokensWithin`). So the limit plays no other part in what a
list of tokens is read as.
-/

namespace Spreadsheet

namespace Formula

/-- The second computation ends like the first one, unless that one ends over the nesting. -/
def Refines {α : Type} (x y : Except Fault α) : Prop :=
  x = .error .nestingTooDeep ∨ y = x

section Refines

variable {α β : Type} {x y z : Except Fault α}

theorem refines_refl (x : Except Fault α) : Refines x x :=
  .inr rfl

theorem refines_nestingTooDeep (y : Except Fault α) : Refines (.error .nestingTooDeep) y :=
  .inl rfl

theorem Refines.trans (h : Refines x y) (h' : Refines y z) : Refines x z := by
  rcases h with rfl | rfl
  · exact refines_nestingTooDeep z
  · exact h'

theorem Refines.bind {k k' : α → Except Fault β} (h : Refines x y)
    (hk : ∀ v, Refines (k v) (k' v)) : Refines (x >>= k) (y >>= k') := by
  rcases h with rfl | rfl
  · exact refines_nestingTooDeep _
  · cases y with
    | error f => exact refines_refl _
    | ok v => exact hk v

end Refines

variable {isFunction : Text → Bool} {operand operand' : Reader}

/-! ## Chains and calls -/

theorem refines_chainFrom (symbols : List Text) (h : ∀ ts, Refines (operand ts) (operand' ts))
    (fuel : Nat) : ∀ left ts,
      Refines (chainFrom symbols operand fuel left ts)
        (chainFrom symbols operand' fuel left ts) := by
  induction fuel with
  | zero => exact fun left ts => refines_refl _
  | succ fuel ih =>
    intro left ts
    cases ts with
    | nil => exact refines_refl _
    | cons t ts =>
      rw [chainFrom_cons, chainFrom_cons]
      split
      · exact (h ts).bind fun p => ih _ p.2
      · exact refines_refl _

theorem refines_chain (symbols : List Text) (h : ∀ ts, Refines (operand ts) (operand' ts))
    (ts : List Token) : Refines (chain symbols operand ts) (chain symbols operand' ts) := by
  rw [chain_eq, chain_eq]
  exact (h ts).bind fun p => refines_chainFrom symbols h _ p.1 p.2

theorem refines_argumentsFrom (h : ∀ ts, Refines (operand ts) (operand' ts)) (fuel : Nat) :
    ∀ ts, Refines (argumentsFrom operand fuel ts) (argumentsFrom operand' fuel ts) := by
  induction fuel with
  | zero => exact fun ts => refines_refl _
  | succ fuel ih =>
    intro ts
    cases ts with
    | nil => exact refines_refl _
    | cons t ts =>
      rw [argumentsFrom_cons, argumentsFrom_cons]
      split
      · exact (h ts).bind fun p => (ih p.2).bind fun q => refines_refl _
      · exact refines_refl _

theorem refines_arguments (h : ∀ ts, Refines (operand ts) (operand' ts)) (ts : List Token) :
    Refines (arguments operand ts) (arguments operand' ts) := by
  rw [arguments_eq, arguments_eq]
  split
  · exact refines_refl _
  · exact (h ts).bind fun p => (refines_argumentsFrom h _ p.2).bind fun q => refines_refl _

theorem refines_named (h : ∀ ts, Refines (operand ts) (operand' ts)) (t : Token)
    (ts : List Token) :
    Refines (named isFunction operand t ts) (named isFunction operand' t ts) := by
  unfold named
  split
  · unfold callOf
    dsimp only
    split
    · exact (refines_refl _).bind fun ts => (refines_arguments h ts).bind fun p => refines_refl _
    · exact refines_refl _
  · exact refines_refl _

theorem refines_primary (h : ∀ ts, Refines (operand ts) (operand' ts)) (ts : List Token) :
    Refines (primary isFunction operand ts) (primary isFunction operand' ts) := by
  cases ts with
  | nil => exact refines_refl _
  | cons t ts =>
    rw [primary, primary]
    split
    · exact refines_refl _
    · exact refines_refl _
    · exact refines_named h t ts
    · split
      · exact (h ts).bind fun p => refines_refl _
      · exact refines_refl _

/-! ## Expressions -/

/-- One more level of nesting, for both parts of the recursion at once. -/
theorem refines_expression_succ (depth : Nat) :
    (∀ ts, Refines (expression isFunction depth ts) (expression isFunction (depth + 1) ts)) ∧
      ∀ ts, Refines (signed isFunction depth ts) (signed isFunction (depth + 1) ts) := by
  induction depth with
  | zero => exact ⟨fun ts => refines_nestingTooDeep _, fun ts => refines_nestingTooDeep _⟩
  | succ depth ih =>
    obtain ⟨hexpression, hsigned⟩ := ih
    constructor
    · exact refines_chain _ (refines_chain _ (refines_chain _ hsigned))
    · intro ts
      cases ts with
      | nil => exact refines_refl _
      | cons t ts =>
        rw [signed_cons, signed_cons]
        split
        · exact (hsigned ts).bind fun p => refines_refl _
        · exact refines_primary hexpression _

theorem refines_expression {depth depth' : Nat} (h : depth ≤ depth') (ts : List Token) :
    Refines (expression isFunction depth ts) (expression isFunction depth' ts) := by
  induction h with
  | refl => exact refines_refl _
  | step _ ih => exact ih.trans ((refines_expression_succ _).1 ts)

theorem refines_ofTokensWithin {depth depth' : Nat} (h : depth ≤ depth') (ts : List Token) :
    Refines (ofTokensWithin depth isFunction ts) (ofTokensWithin depth' isFunction ts) := by
  cases ts with
  | nil => exact refines_refl _
  | cons t ts =>
    rw [ofTokensWithin_cons, ofTokensWithin_cons]
    exact (refines_expression h _).bind fun p => refines_refl _

end Formula

end Spreadsheet
