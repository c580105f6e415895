import Mathlib.Data.List.Forall2
import Spreadsheet.Proofs.Formula.Readers

/-!
# Positions do not matter

Tokens that differ only in where they stand are read alike (`alike_ofTokens`): as the same formula,
or they fail in the same way, but for the positions that the faults tell.
-/

namespace Spreadsheet

/-- Without the position. -/
def Malformed.unplaced : Malformed → Malformed
  | unexpected text _ => unexpected text 0
  | expected wanted got _ => expected wanted got 0
  | badReference text _ => badReference text 0
  | referenceExpected _ => referenceExpected 0
  | e => e

/-- Without the position, if the fault tells one. -/
def Fault.unplaced : Fault → Fault
  | formula (.malformed e) => formula (.malformed e.unplaced)
  | f => f

/-- The same token, wherever it stands. -/
structure Token.Alike (t u : Token) : Prop where
  kind : t.kind = u.kind
  text : t.text = u.text

/-- Results that correspond to each other, or faults that are the same but for positions. -/
inductive ReadAlike {α : Type} (R : α → α → Prop) : Except Fault α → Except Fault α → Prop where
  | ok {x y : α} (h : R x y) : ReadAlike R (.ok x) (.ok y)
  | error {f g : Fault} (h : f.unplaced = g.unplaced) : ReadAlike R (.error f) (.error g)

theorem ReadAlike.bind {α β : Type} {R : α → α → Prop} {S : β → β → Prop} {x y : Except Fault α}
    {k k' : α → Except Fault β} (h : ReadAlike R x y)
    (hk : ∀ v w, R v w → ReadAlike S (k v) (k' w)) :
    ReadAlike S (x >>= k) (y >>= k') := by
  cases h with
  | ok h => exact hk _ _ h
  | error h => exact .error h

theorem ReadAlike.mapError_eq {α : Type} {x y : Except Fault α} (h : ReadAlike Eq x y) :
    x.mapError Fault.unplaced = y.mapError Fault.unplaced := by
  cases h with
  | ok h => rw [h]
  | error h => exact congrArg Except.error h

namespace Formula

/-- The same part of a formula, and behind it tokens that are alike. -/
structure SamePart {α : Type} (p q : α × List Token) : Prop where
  part : p.1 = q.1
  rest : p.2.Forall₂ Token.Alike q.2

/-- Tokens that are alike are read alike. -/
def PlaceFree {α : Type} (read : List Token → Except Fault (α × List Token)) : Prop :=
  ∀ ts us, ts.Forall₂ Token.Alike us → ReadAlike SamePart (read ts) (read us)

variable {limit : NestingLimit} {isFunction : Text → Bool} {operand : Reader} {t u : Token}
  {ts us : List Token}

/-! ## Single tokens -/

theorem isOperator_eq (h : t.Alike u) (symbols : List Text) :
    isOperator symbols t = isOperator symbols u := by
  rw [isOperator, isOperator, h.kind, h.text]

theorem startsWith_eq (h : ts.Forall₂ Token.Alike us) (symbol : Text) :
    startsWith symbol ts = startsWith symbol us := by
  cases h with
  | nil => rfl
  | cons ht _ => exact isOperator_eq ht [symbol]

theorem alike_part {α : Type} (x : α) (h : ts.Forall₂ Token.Alike us) :
    ReadAlike SamePart (.ok (x, ts)) (.ok (x, us)) :=
  .ok ⟨rfl, h⟩

theorem alike_expect (wanted : Text) (h : ts.Forall₂ Token.Alike us) :
    ReadAlike (List.Forall₂ Token.Alike) (expect wanted ts) (expect wanted us) := by
  cases h with
  | nil => exact .error rfl
  | cons ht hts =>
    simp only [expect, ht.text]
    split
    · exact .ok hts
    · exact .error rfl

theorem alike_address (h : t.Alike u) : ReadAlike Eq (address t) (address u) := by
  simp only [address, h.text]
  split
  · exact .error rfl
  · split <;> exact .error rfl
  · split
    · exact .ok rfl
    · exact .error rfl

/-! ## Chains and calls -/

theorem alike_chainFrom (symbols : List Text) (hoperand : PlaceFree operand) (fuel : Nat) :
    ∀ left, PlaceFree (chainFrom symbols operand fuel left) := by
  induction fuel with
  | zero => exact fun left ts us h => alike_part left h
  | succ fuel ih =>
    intro left ts us h
    cases h with
    | nil => exact alike_part left .nil
    | cons ht hts =>
      rw [chainFrom_cons, chainFrom_cons, isOperator_eq ht]
      split
      · refine (hoperand _ _ hts).bind fun p q hp => ?_
        rw [hp.part, ht.text]
        exact ih _ _ _ hp.rest
      · exact alike_part left (.cons ht hts)

theorem alike_chain (symbols : List Text) (hoperand : PlaceFree operand) :
    PlaceFree (chain symbols operand) := by
  intro ts us h
  rw [chain_eq, chain_eq]
  refine (hoperand _ _ h).bind fun p q hp => ?_
  rw [hp.part, hp.rest.length_eq]
  exact alike_chainFrom symbols hoperand _ _ _ _ hp.rest

theorem alike_argumentsFrom (hoperand : PlaceFree operand) (fuel : Nat) :
    PlaceFree (argumentsFrom operand fuel) := by
  induction fuel with
  | zero => exact fun ts us h => alike_part [] h
  | succ fuel ih =>
    intro ts us h
    cases h with
    | nil => exact alike_part [] .nil
    | cons ht hts =>
      rw [argumentsFrom_cons, argumentsFrom_cons, isOperator_eq ht]
      split
      · refine (hoperand _ _ hts).bind fun p q hp => (ih _ _ hp.rest).bind fun p' q' hp' => ?_
        rw [hp.part, hp'.part]
        exact alike_part _ hp'.rest
      · exact alike_part [] (.cons ht hts)

theorem alike_arguments (hoperand : PlaceFree operand) : PlaceFree (arguments operand) := by
  intro ts us h
  rw [arguments_eq, arguments_eq, startsWith_eq h]
  split
  · exact alike_part [] h
  · refine (hoperand _ _ h).bind fun p q hp => ?_
    rw [hp.rest.length_eq]
    refine (alike_argumentsFrom hoperand _ _ _ hp.rest).bind fun p' q' hp' => ?_
    rw [hp.part, hp'.part]
    exact alike_part _ hp'.rest

theorem alike_callOf (hoperand : PlaceFree operand) (ht : t.Alike u)
    (h : ts.Forall₂ Token.Alike us) :
    ReadAlike SamePart (callOf isFunction operand t ts) (callOf isFunction operand u us) := by
  simp only [callOf, ht.text]
  split
  · refine (alike_expect _ h).bind fun ts us h => (alike_arguments hoperand _ _ h).bind ?_
    rintro ⟨args, ts⟩ ⟨args', us⟩ ⟨rfl, h⟩
    exact (alike_expect _ h).bind fun ts us h => alike_part _ h
  · exact .error rfl

theorem alike_reference (ht : t.Alike u) (h : ts.Forall₂ Token.Alike us) :
    ReadAlike SamePart (reference t ts) (reference u us) := by
  have hstart := alike_address ht
  unfold reference
  generalize address t = x, address u = y at hstart
  cases hstart with
  | error hf => exact .error hf
  | ok hstart =>
    subst hstart
    simp only [startsWith_eq h]
    split
    · cases h with
      | nil => exact .error rfl
      | cons _ hts =>
        cases hts with
        | nil => exact .error rfl
        | cons ht hts =>
          have hstop := alike_address ht
          simp only [List.tail_cons, ht.kind]
          split
          · revert hstop
            generalize address _ = x, address _ = y
            rintro (⟨rfl⟩ | hf)
            · exact alike_part _ hts
            · exact .error hf
          · exact .error rfl
    · exact alike_part _ h

theorem alike_named (hoperand : PlaceFree operand) (ht : t.Alike u)
    (h : ts.Forall₂ Token.Alike us) :
    ReadAlike SamePart (named isFunction operand t ts) (named isFunction operand u us) := by
  have hcall : ReadAlike SamePart (callOf isFunction operand t ts)
      (callOf isFunction operand u us) := alike_callOf hoperand ht h
  have hreference := alike_reference ht h
  simp only [named, ht.text, startsWith_eq h]
  split
  · exact hcall
  · split
    · exact hreference
    · split
      · exact alike_part _ h
      · split
        · exact alike_part _ h
        · split
          · exact alike_part _ h
          · exact .error rfl

theorem alike_literal (ht : t.Alike u) (h : ts.Forall₂ Token.Alike us) :
    ReadAlike SamePart (literal t ts) (literal u us) := by
  simp only [literal, ht.text]
  split
  · exact .error rfl
  · split
    · exact alike_part _ h
    · exact .error rfl

theorem alike_primary (hoperand : PlaceFree operand) :
    PlaceFree (primary isFunction operand) := by
  intro ts us h
  cases h with
  | nil => exact .error rfl
  | cons ht hts =>
    rw [primary, primary, ht.kind]
    split
    · exact alike_literal ht hts
    · rw [ht.text]
      exact alike_part _ hts
    · exact alike_named hoperand ht hts
    · rw [ht.text]
      split
      · refine (hoperand _ _ hts).bind ?_
        rintro ⟨f, ts⟩ ⟨g, us⟩ ⟨rfl, h⟩
        exact (alike_expect _ h).bind fun ts us h => alike_part _ h
      · exact .error rfl

/-! ## Expressions -/

/-- Both levels of the recursion at once: expressions, and primaries with signs. -/
theorem alike_expression (depth : Nat) :
    PlaceFree (expression isFunction depth) ∧ PlaceFree (signed isFunction depth) := by
  induction depth with
  | zero => exact ⟨fun ts us h => .error rfl, fun ts us h => .error rfl⟩
  | succ depth ih =>
    obtain ⟨hexpression, hsigned⟩ := ih
    constructor
    · exact alike_chain _ (alike_chain _ (alike_chain _ hsigned))
    · intro ts us h
      cases h with
      | nil => exact .error rfl
      | cons ht hts =>
        rw [signed_cons, signed_cons, isOperator_eq ht]
        split
        · refine (hsigned _ _ hts).bind fun p q hp => ?_
          rw [hp.part, ht.text]
          exact alike_part _ hp.rest
        · exact alike_primary hexpression _ _ (.cons ht hts)

theorem alike_ofTokens (h : ts.Forall₂ Token.Alike us) :
    ReadAlike Eq (ofTokens limit isFunction ts) (ofTokens limit isFunction us) := by
  cases h with
  | nil => exact .error rfl
  | cons ht hts =>
    rw [ofTokens, ofTokens, ofTokensWithin_cons, ofTokensWithin_cons]
    refine ((alike_expression _).1 _ _ (.cons ht hts)).bind ?_
    rintro ⟨f, ts⟩ ⟨g, us⟩ ⟨rfl, h⟩
    cases h with
    | nil => exact .ok rfl
    | cons ht _ =>
      refine .error ?_
      rw [ht.text]
      rfl

end Formula

end Spreadsheet
