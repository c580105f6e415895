import Spreadsheet.Proofs.Evaluation
import Spreadsheet.Proofs.Formula.Readers

/-!
# How reading a text can fail

Reading a formula ends with an error of the language, with a formula that is nested too deeply, or
with a row number that is too long. The first two are kept in the cell, so reading the text of a
cell fails only over a row number (`Content.eq_of_read_eq_error`).
-/

namespace Spreadsheet

/-- The faults that reading a formula can end with. -/
inductive ReadingFault : Fault → Prop where
  | formula (e : FormulaError) : ReadingFault (.formula e)
  | nestingTooDeep : ReadingFault .nestingTooDeep
  | numeralTooLong : ReadingFault .numeralTooLong

/-- A result, or a fault of reading. -/
def Legible {α : Type} (x : Except Fault α) : Prop :=
  ∀ f, x = .error f → ReadingFault f

section Legible

variable {α β : Type}

theorem legible_ok (x : α) : Legible (.ok x : Except Fault α) := by
  simp [Legible]

theorem legible_formula (e : FormulaError) : Legible (.error (.formula e) : Except Fault α) := by
  rintro _ ⟨⟩
  exact .formula e

theorem legible_nestingTooDeep : Legible (.error .nestingTooDeep : Except Fault α) := by
  rintro _ ⟨⟩
  exact .nestingTooDeep

theorem Legible.error {x : Except Fault α} {f : Fault} (h : Legible x) (hx : x = .error f) :
    Legible (.error f : Except Fault β) := by
  rintro _ ⟨⟩
  exact h f hx

theorem Legible.bind {x : Except Fault α} {k : α → Except Fault β} (h : Legible x)
    (hk : ∀ v, Legible (k v)) : Legible (x >>= k) := by
  cases x with
  | error f => exact h.error rfl
  | ok v => exact hk v

end Legible

/-! ## Tokens -/

theorem Token.scan_nil (pos : Nat) : scan pos [] = .ok [] := by
  unfold scan
  rfl

theorem Token.scan_cons {pos : Nat} {c : CodePoint} {cs chars rest : Text}
    {kind : Option TokenKind} (h : lexeme? (c :: cs) = some (kind, chars, rest)) :
    scan pos (c :: cs) = (scan (pos + chars.length) rest).map fun tokens =>
      kind.elim tokens (⟨·, chars, pos⟩ :: tokens) := by
  conv => lhs; unfold scan
  split
  · next heq => simp [h] at heq
  · next heq =>
    rw [h] at heq
    cases heq
    cases scan (pos + chars.length) rest <;> cases kind <;> rfl

theorem Token.legible_scan (pos : Nat) (cs : Text) : Legible (scan pos cs) := by
  fun_induction scan pos cs with
  | case1 => exact legible_ok _
  | case2 => exact legible_formula _
  | case3 _ _ _ _ _ _ _ _ _ heq _ ih => exact ih.error heq
  | case4 => exact legible_ok _
  | case5 => exact legible_ok _

/-! ## Formulas -/

namespace Formula

variable {limit : NestingLimit} {isFunction : Text → Bool}

theorem legible_expect (wanted : Text) (ts : List Token) : Legible (expect wanted ts) := by
  unfold expect
  split
  · exact legible_formula _
  · split
    · exact legible_ok _
    · exact legible_formula _

section Operand

variable {operand : Reader}

theorem legible_chainFrom (symbols : List Text) (h : ∀ ts, Legible (operand ts)) :
    ∀ (fuel : Nat) (left : Formula) (ts : List Token),
      Legible (chainFrom symbols operand fuel left ts) := by
  intro fuel
  induction fuel with
  | zero => exact fun _ _ => legible_ok _
  | succ fuel ih =>
    intro left ts
    cases ts with
    | nil => exact legible_ok _
    | cons t ts =>
      rw [chainFrom_cons]
      split
      · exact (h ts).bind fun p => ih _ p.2
      · exact legible_ok _

theorem legible_chain (symbols : List Text) (h : ∀ ts, Legible (operand ts)) (ts : List Token) :
    Legible (chain symbols operand ts) := by
  rw [chain_eq]
  exact (h ts).bind fun p => legible_chainFrom symbols h _ p.1 p.2

theorem legible_argumentsFrom (h : ∀ ts, Legible (operand ts)) :
    ∀ (fuel : Nat) (ts : List Token), Legible (argumentsFrom operand fuel ts) := by
  intro fuel
  induction fuel with
  | zero => exact fun _ => legible_ok _
  | succ fuel ih =>
    intro ts
    cases ts with
    | nil => exact legible_ok _
    | cons t ts =>
      rw [argumentsFrom_cons]
      split
      · exact (h ts).bind fun p => (ih p.2).bind fun q => legible_ok _
      · exact legible_ok _

theorem legible_arguments (h : ∀ ts, Legible (operand ts)) (ts : List Token) :
    Legible (arguments operand ts) := by
  rw [arguments_eq]
  split
  · exact legible_ok _
  · exact (h ts).bind fun p => (legible_argumentsFrom h _ p.2).bind fun q => legible_ok _

theorem legible_callOf (h : ∀ ts, Legible (operand ts)) (t : Token) (ts : List Token) :
    Legible (callOf isFunction operand t ts) := by
  unfold callOf
  dsimp only
  split
  · refine (legible_expect _ _).bind fun ts => (legible_arguments h ts).bind fun (args, ts) => ?_
    exact (legible_expect _ _).bind fun ts => legible_ok _
  · exact legible_formula _

end Operand

theorem legible_address (t : Token) : Legible (address t) := by
  unfold address
  split
  · next heq =>
    unfold Address.decode at heq
    split at heq
    split at heq
    · simp at heq
    · split at heq
      · cases heq
        rintro _ ⟨⟩
        exact .numeralTooLong
      · simp at heq
  · split <;> exact legible_formula _
  · split
    · exact legible_ok _
    · exact legible_formula _

theorem legible_reference (t : Token) (ts : List Token) : Legible (reference t ts) := by
  unfold reference
  split
  · next heq => exact (legible_address t).error heq
  · split
    · split
      · exact legible_formula _
      · next u _ _ =>
        split
        · split
          · next heq => exact (legible_address u).error heq
          · exact legible_ok _
        · exact legible_formula _
    · exact legible_ok _

theorem legible_named {operand : Reader} (h : ∀ ts, Legible (operand ts)) (t : Token)
    (ts : List Token) : Legible (named isFunction operand t ts) := by
  unfold named
  split
  · exact legible_callOf h t ts
  · split
    · exact legible_reference t ts
    · split
      · exact legible_ok _
      · split
        · exact legible_ok _
        · split
          · exact legible_ok _
          · exact legible_formula _

theorem legible_literal (t : Token) (ts : List Token) : Legible (literal t ts) := by
  unfold literal
  split
  · exact legible_formula _
  · split
    · exact legible_ok _
    · exact legible_formula _

theorem legible_primary {operand : Reader} (h : ∀ ts, Legible (operand ts)) (ts : List Token) :
    Legible (primary isFunction operand ts) := by
  cases ts with
  | nil => exact legible_formula _
  | cons t ts =>
    rw [primary]
    split
    · exact legible_literal t ts
    · exact legible_ok _
    · exact legible_named h t ts
    · split
      · refine (h ts).bind fun (f, ts) => ?_
        exact (legible_expect _ _).bind fun ts => legible_ok _
      · exact legible_formula _

/-- Both levels of the recursion at once: expressions, and primaries with signs. -/
theorem legible_expression (depth : Nat) :
    (∀ ts, Legible (expression isFunction depth ts)) ∧
      ∀ ts, Legible (signed isFunction depth ts) := by
  induction depth with
  | zero => exact ⟨fun _ => legible_nestingTooDeep, fun _ => legible_nestingTooDeep⟩
  | succ depth ih =>
    obtain ⟨hexpression, hsigned⟩ := ih
    constructor
    · exact legible_chain _ (legible_chain _ (legible_chain _ hsigned))
    · intro ts
      cases ts with
      | nil => exact legible_formula _
      | cons t ts =>
        rw [signed_cons]
        split
        · exact (hsigned ts).bind fun p => legible_ok _
        · exact legible_primary hexpression _

theorem legible_ofTokens (ts : List Token) : Legible (ofTokens limit isFunction ts) := by
  unfold ofTokens ofTokensWithin
  split
  · exact legible_formula _
  · split
    · next heq => exact ((legible_expression _).1 ts).error heq
    · exact legible_ok _
    · exact legible_formula _

theorem legible_parse (t : Text) : Legible (parse limit isFunction t) := by
  unfold parse
  split
  · next heq => exact (Token.legible_scan 0 _).error heq
  · exact legible_ofTokens _

end Formula

namespace Content

variable {lang : Language} {raw : Text}

/-- The text of a cell is refused only over a row number that is too long. -/
theorem eq_of_read_eq_error {f : Fault} (h : read lang raw = .error f) :
    f = .numeralTooLong := by
  unfold read at h
  split at h
  · split at h
    · simp at h
    · next heq =>
      rw [Except.error.injEq] at h
      subst h
      unfold readFormula at heq
      split at heq
      · simp at heq
      · simp at heq
      · simp at heq
      · next f hformula hnesting hparse =>
        cases heq
        cases Formula.legible_parse raw _ hparse with
        | formula e => exact (hformula e rfl).elim
        | nestingTooDeep => exact (hnesting rfl).elim
        | numeralTooLong => rfl
  · split at h <;> simp at h

/-- A literal can be shown: a number that a text writes is finite. -/
theorem displayable_of_read {v : CellValue} (h : read lang raw = .ok (.literal v)) :
    v.Displayable := by
  unfold read at h
  split at h
  · split at h <;> simp at h
  · split at h
    · next x hx =>
      cases h
      exact CellValue.displayable_number (Option.filter_eq_some_iff.1 hx).2
    · cases h
      exact ⟨raw, rfl⟩

end Content

end Spreadsheet
