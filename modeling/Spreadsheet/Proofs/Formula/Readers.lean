import Spreadsheet.Formula.Parser

/-!
# The readers, step by step

What each reader of formulas does on a list of tokens, as a sequence of readers. A property of
readers that goes through sequences is then proved by following these equations.
-/

namespace Spreadsheet

namespace Formula

variable {isFunction : Text → Bool} {symbols : List Text} {operand : Reader} {left : Formula}
  {fuel depth : Nat} {t : Token} {ts : List Token}

theorem chainFrom_cons : chainFrom symbols operand (fuel + 1) left (t :: ts) =
    if isOperator symbols t then
      operand ts >>= fun p => chainFrom symbols operand fuel (.binary t.text left p.1) p.2
    else .ok (left, t :: ts) := by
  rw [chainFrom]
  cases operand ts <;> rfl

theorem chain_eq : chain symbols operand ts =
    operand ts >>= fun p => chainFrom symbols operand p.2.length p.1 p.2 := by
  rw [chain]
  cases operand ts <;> rfl

/-- An operand that uses up the tokens, or fails, decides the chain. -/
theorem chain_of_operand {r : Except Fault Formula} (h : operand ts = r.map (·, [])) :
    chain symbols operand ts = r.map (·, []) := by
  rw [chain_eq, h]
  cases r <;> rfl

theorem argumentsFrom_cons : argumentsFrom operand (fuel + 1) (t :: ts) =
    if isOperator [","] t then
      operand ts >>= fun p => argumentsFrom operand fuel p.2 >>= fun q => .ok (p.1 :: q.1, q.2)
    else .ok ([], t :: ts) := by
  rw [argumentsFrom]
  rcases operand ts with f | ⟨arg, rest⟩
  · rfl
  · dsimp only [bind, Except.bind]
    cases argumentsFrom operand fuel rest <;> rfl

theorem arguments_eq : arguments operand ts =
    if startsWith ")" ts then .ok ([], ts)
    else operand ts >>= fun p =>
      argumentsFrom operand p.2.length p.2 >>= fun q => .ok (p.1 :: q.1, q.2) := by
  rw [arguments]
  rcases operand ts with f | ⟨arg, rest⟩
  · rfl
  · dsimp only [bind, Except.bind]
    cases argumentsFrom operand rest.length rest <;> rfl

theorem signed_cons : signed isFunction (depth + 1) (t :: ts) =
    if isOperator sumSymbols t then
      signed isFunction depth ts >>= fun p => .ok (.unary t.text p.1, p.2)
    else primary isFunction (expression isFunction depth) (t :: ts) := by
  rw [signed]
  dsimp only
  cases signed isFunction depth ts <;> rfl

theorem ofTokensWithin_cons : ofTokensWithin depth isFunction (t :: ts) =
    expression isFunction depth (t :: ts) >>= fun p =>
      match p.2 with
      | [] => .ok p.1
      | t :: _ => malformed (.unexpected t.text t.pos) := by
  rw [ofTokensWithin]
  rcases expression isFunction depth (t :: ts) with f | ⟨f, rest⟩
  · rfl
  · cases rest <;> rfl

theorem ofTokensWithin_of_signed {r : Except Fault Formula}
    (h : signed isFunction depth (t :: ts) = r.map (·, [])) :
    ofTokensWithin (depth + 1) isFunction (t :: ts) = r := by
  have hexpression : expression isFunction (depth + 1) (t :: ts) = r.map (·, []) :=
    chain_of_operand (chain_of_operand (chain_of_operand h))
  rw [ofTokensWithin_cons, hexpression]
  cases r <;> rfl

end Formula

end Spreadsheet
