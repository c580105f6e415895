import Spreadsheet.Proofs.Library.Calls
import Spreadsheet.Proofs.Library.Results

/-!
# Evaluations that are related

A formula is evaluated with two readers. `Respects` says that the readers, the operators and the
eager functions respect a relation between values, up to faults of the first side that are excused
and some calls that are left out. Then evaluating respects it too, unless such a call is evaluated
on the way (`Respects.evalWithin`).
-/

namespace Spreadsheet

open Standard (Function)

/-! ## Outcomes -/

/-- Two outcomes agree: related results, the same fault, or a fault of the first that is excused. -/
inductive AgreeBy {α β : Type} (excused : Fault → Prop) (R : α → β → Prop) :
    Except Fault α → Except Fault β → Prop where
  | ok {a : α} {b : β} (h : R a b) : AgreeBy excused R (.ok a) (.ok b)
  | error (f : Fault) : AgreeBy excused R (.error f) (.error f)
  | excused {f : Fault} (h : excused f) (x : Except Fault β) : AgreeBy excused R (.error f) x

namespace AgreeBy

variable {α β γ δ : Type} {excused : Fault → Prop} {R : α → β → Prop} {S : γ → δ → Prop}
  {x : Except Fault α} {x' : Except Fault β}

theorem bind {k : α → Except Fault γ} {k' : β → Except Fault δ} (h : AgreeBy excused R x x')
    (hk : ∀ a b, x = .ok a → R a b → AgreeBy excused S (k a) (k' b)) :
    AgreeBy excused S (x >>= k) (x' >>= k') := by
  cases h with
  | ok h => exact hk _ _ rfl h
  | error f => exact .error f
  | excused h x' => exact .excused h _

theorem refl {R : α → α → Prop} (h : ∀ a, R a a) (x : Except Fault α) :
    AgreeBy excused R x x := by
  cases x with
  | error f => exact .error f
  | ok a => exact .ok (h a)

theorem imp {R R' : α → β → Prop} {x : Except Fault α} {x' : Except Fault β}
    (h : AgreeBy excused R x x') (hR : ∀ {a b}, R a b → R' a b) : AgreeBy excused R' x x' := by
  cases h with
  | ok h => exact .ok (hR h)
  | error f => exact .error f
  | excused h x' => exact .excused h x'

/-- Evaluating a list of formulas, of which each has to agree only if those before it succeed. -/
theorem mapM {ι : Type} {k : ι → Except Fault α} {k' : ι → Except Fault β} : ∀ (is : List ι),
    (∀ before i after, is = before ++ i :: after → (∀ j ∈ before, ∃ a, k j = .ok a) →
      AgreeBy excused R (k i) (k' i)) →
    AgreeBy excused (List.Forall₂ R) (is.mapM k) (is.mapM k')
  | [], _ => .ok .nil
  | i :: is, h => by
    rw [List.mapM_cons, List.mapM_cons]
    refine (h [] i is rfl (by simp)).bind fun a b ha hab => ?_
    have hrest := mapM is fun before j after his hbefore =>
      h (i :: before) j after (congrArg (i :: ·) his) (List.forall_mem_cons.2 ⟨⟨a, ha⟩, hbefore⟩)
    exact hrest.bind fun as bs _ habs => .ok (.cons hab habs)

end AgreeBy

/-! ## Evaluation -/

/-- Two readers, the operators and the eager functions respect a relation between values, some calls
left out. -/
structure Respects (lib : Library) (reader reader' : CellReader) (excused : Fault → Prop)
    (R : Value → Value → Prop) (leftOut : Nat → Formula → Prop) : Prop where
  scalar : ∀ v, R (.scalar v) (.scalar v)
  read : ∀ a, reader.read a = reader'.read a
  range : ∀ r, AgreeBy excused R (reader.readRange r) (reader'.readRange r)
  toNumber : ∀ {v v'}, R v v' → AgreeBy excused (· = ·) v.toNumber v'.toNumber
  isTrue : ∀ {v v'}, R v v' → AgreeBy excused (· = ·) v.isTrue v'.isTrue
  compareBy : ∀ {v v' w w'} symbol, R v v' → R w w' → v.compareBy symbol w = v'.compareBy symbol w'
  /-- An eager function gives related results for related operands. -/
  eager : ∀ {depth name args e} {f : Function} {result},
    lib.checkCount name args.length = .ok e → e.behaviour = f.behaviour →
      f.behaviour = .eager result → ¬ leftOut (depth + 1) (.call name args) →
        ∀ vs vs', args.mapM (evalWithin lib reader depth) = .ok vs →
          args.mapM (evalWithin lib reader' depth) = .ok vs' → List.Forall₂ R vs vs' →
            AgreeBy excused R (finiteOutcome (result vs)) (finiteOutcome (result vs'))

section Evaluation

variable {lib : Library} {reader reader' : CellReader} {excused : Fault → Prop}
  {R : Value → Value → Prop} {leftOut : Nat → Formula → Prop} {depth : Nat}

/-- No call that is left out is evaluated on the way to the value of a formula. -/
def Avoids (lib : Library) (reader : CellReader) (leftOut : Nat → Formula → Prop) (depth : Nat)
    (f : Formula) : Prop :=
  ∀ n g, Evaluates lib reader depth f n g → ¬ leftOut n g

/-- Scalars that are computed alike. -/
theorem AgreeBy.scalar_self (hscalar : ∀ v, R (.scalar v) (.scalar v)) {α : Type}
    (x : Except Fault α) (k : α → CellValue) :
    AgreeBy excused R (x >>= fun a => .ok (.scalar (k a)))
      (x >>= fun a => .ok (.scalar (k a))) := by
  cases x with
  | error f => exact .error f
  | ok a => exact .ok (hscalar (k a))

/-- What an eager function gives is a scalar. -/
theorem AgreeBy.finiteOutcome_self (hscalar : ∀ v, R (.scalar v) (.scalar v)) {f : Function}
    {result : List Value → Outcome} (hresult : f.behaviour = .eager result) (args : List Value) :
    AgreeBy excused R (finiteOutcome (result args)) (finiteOutcome (result args)) := by
  have hgives := Standard.gives_of_eager hresult args
  generalize result args = o at hgives
  cases hgives with
  | number => exact .scalar_self hscalar (finite _) .number
  | text | emptySum => exact .ok (hscalar _)
  | countTooLarge | notShown => exact .error _

namespace Respects

variable (h : Respects lib reader reader' excused R leftOut)
include h

theorem applyUnary (symbol : Text) {v v' : Value} (hv : R v v') :
    AgreeBy excused R (applyUnary symbol v) (applyUnary symbol v') :=
  (h.toNumber hv).bind fun x x' _ hx => by
    subst hx
    exact .ok (h.scalar _)

theorem applyBinary (symbol : Text) {v v' w w' : Value} (hv : R v v') (hw : R w w') :
    AgreeBy excused R (applyBinary symbol v w) (applyBinary symbol v' w') := by
  unfold Spreadsheet.applyBinary
  cases Arithmetic.ofSymbol? symbol with
  | some op =>
    refine (h.toNumber hv).bind fun x x' _ hx => (h.toNumber hw).bind fun y y' _ hy => ?_
    subst hx hy
    exact .scalar_self h.scalar (op.apply x y) .number
  | none =>
    dsimp only
    rw [h.compareBy symbol hv hw]
    exact .scalar_self h.scalar (v'.compareBy symbol w') .number

theorem choose {eval eval' : Formula → Outcome} (args : List Formula)
    (hcondition : ∀ condition branches, args = condition :: branches →
      AgreeBy excused R (eval condition) (eval' condition))
    (hbranch : ∀ condition branches v holds branch, args = condition :: branches →
      eval condition = .ok v → v.isTrue = .ok holds →
        branches[if holds then 0 else 1]? = some branch →
          AgreeBy excused R (eval branch) (eval' branch)) :
    AgreeBy excused R (Standard.choose args eval) (Standard.choose args eval') := by
  cases args with
  | nil => exact .error _
  | cons condition branches =>
    rw [choose_cons, choose_cons]
    refine (hcondition condition branches rfl).bind fun v v' heval hv => ?_
    refine (h.isTrue hv).bind fun holds holds' hholds heq => ?_
    subst heq
    cases hsome : branches[if holds then 0 else 1]? with
    | none => exact .error _
    | some branch => exact hbranch condition branches v holds branch rfl heval hholds hsome

theorem call (hlib : lib.IsStandard) {args : List Formula} (name : Text)
    (hargs : ∀ arg ∈ args, Avoids lib reader leftOut depth arg →
      AgreeBy excused R (evalWithin lib reader depth arg) (evalWithin lib reader' depth arg))
    (havoids : Avoids lib reader leftOut (depth + 1) (.call name args)) :
    AgreeBy excused R (evalWithin lib reader (depth + 1) (.call name args))
      (evalWithin lib reader' (depth + 1) (.call name args)) := by
  cases hentry : lib.checkCount name args.length with
  | error fault =>
    rw [evalWithin_of_checkCount_error hentry, evalWithin_of_checkCount_error hentry]
    exact .error fault
  | ok e =>
    rcases hlib.eager_or_choose hentry with ⟨f, result, hf, hresult⟩ | hchoose
    · rw [evalWithin_eager hentry (hf.trans hresult), evalWithin_eager hentry (hf.trans hresult)]
      have hoperands : AgreeBy excused (List.Forall₂ R) (args.mapM (evalWithin lib reader depth))
          (args.mapM (evalWithin lib reader' depth)) := by
        refine .mapM args fun before arg after heq hbefore => ?_
        subst heq
        exact hargs arg (by simp) fun n g hev =>
          havoids n g (.operand hentry (hf.trans hresult) hbefore hev)
      have heager := h.eager hentry hf hresult (havoids _ _ (.self _ _))
      generalize args.mapM (evalWithin lib reader depth) = x at hoperands heager
      generalize args.mapM (evalWithin lib reader' depth) = x' at hoperands heager
      cases hoperands with
      | ok hvs => exact heager _ _ rfl rfl hvs
      | error fault => exact .error fault
      | excused hfault x' => exact .excused hfault _
    · rw [evalWithin_choose hentry hchoose, evalWithin_choose hentry hchoose]
      refine h.choose args ?_ ?_
      · rintro condition branches rfl
        exact hargs condition List.mem_cons_self fun n g hev =>
          havoids n g (.condition hentry hchoose hev)
      · rintro condition branches v holds branch rfl heval hholds hbranch
        exact hargs branch (List.mem_cons_of_mem condition (List.mem_of_getElem? hbranch))
          fun n g hev => havoids n g (.branch hentry hchoose heval hholds hbranch hev)

/-- Evaluating respects the relation, unless a call that is left out is evaluated on the way. -/
theorem evalWithin (hlib : lib.IsStandard) (depth : Nat) : ∀ f, Avoids lib reader leftOut depth f →
    AgreeBy excused R (evalWithin lib reader depth f) (evalWithin lib reader' depth f) := by
  -- along the depth and not along the formula: evaluation stops at the nesting limit
  induction depth with
  | zero => exact fun _ _ => .error _
  | succ depth ih =>
    intro f havoids
    cases f with
    | number x => exact .ok (h.scalar _)
    | text t => exact .ok (h.scalar _)
    | ref a =>
      rw [Spreadsheet.evalWithin, Spreadsheet.evalWithin, h.read a]
      exact .scalar_self h.scalar (reader'.read a) id
    | range r => exact h.range r
    | unary symbol operand =>
      exact (ih operand fun n g hev => havoids n g (.unary hev)).bind fun v v' _ hv =>
        h.applyUnary symbol hv
    | binary symbol left right =>
      refine (ih left fun n g hev => havoids n g (.left hev)).bind fun v v' hleft hv => ?_
      exact (ih right fun n g hev => havoids n g (.right hleft hev)).bind fun w w' _ hw =>
        h.applyBinary symbol hv hw
    | call name args => exact h.call hlib name (fun arg _ => ih arg) havoids
    | failed code message => exact .error _
    | unknown => exact .error _

end Respects

end Evaluation

end Spreadsheet
