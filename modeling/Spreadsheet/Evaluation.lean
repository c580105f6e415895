import Spreadsheet.Language
import Spreadsheet.Value.Comparison

/-!
# Evaluation

A formula is evaluated with a language and a reader of cells. The reader gives the value of a cell
and says which addresses of a range are worth reading; it never evaluates another formula. An
error value that is read ends the evaluation with that error. `eval` gives the value of any part
of a formula, `evaluate` what a cell holds.
-/

namespace Spreadsheet

/-- Access to the cells of a sheet. The members of a range are listed row by row and may leave out
cells that are empty. -/
structure CellReader where
  value : Address → CellValue
  members : CellRange → List Address

namespace CellReader

/-- A reader that lists every address of a range. -/
def dense (value : Address → CellValue) : CellReader :=
  ⟨value, CellRange.cells⟩

/-- The value of a cell, unless it is an error. -/
def read (reader : CellReader) (a : Address) : Except Fault CellValue :=
  match reader.value a with
  | .error code => .error (.formula (.inherited a code))
  | v => .ok v

/-- The values of a range. -/
def readRange (reader : CellReader) (r : CellRange) : Outcome :=
  match (reader.members r).mapM reader.read with
  | .error f => .error f
  | .ok members => .ok (.range members r.size)

end CellReader

/-- A number, provided it is finite. -/
def finite (x : Float) : Except Fault Float :=
  if x.isFinite then .ok x else .error (.formula (.outOfRange .result))

/-- The arithmetic operators. -/
inductive Arithmetic where
  | add
  | sub
  | mul
  | div
  deriving DecidableEq, Repr

namespace Arithmetic

/-- The arithmetic operator of a symbol. -/
def ofSymbol? (symbol : Text) : Option Arithmetic :=
  if symbol = "+" then some add
  else if symbol = "-" then some sub
  else if symbol = "*" then some mul
  else if symbol = "/" then some div
  else none

/-- The result of an operator on two numbers. -/
def apply (op : Arithmetic) (x y : Float) : Except Fault Float :=
  match op with
  | add => finite (x + y)
  | sub => finite (x - y)
  | mul => finite (x * y)
  | div => if y == 0 then .error (.formula (.outOfRange .divisionByZero)) else finite (x / y)

end Arithmetic

/-- The result of a prefix operator: a minus changes the sign, anything else only coerces. -/
def applyUnary (symbol : Text) (operand : Value) : Outcome := do
  let x ← operand.toNumber
  .ok (.number (if symbol = "-" then -x else x))

/-- The result of an operator between two values. -/
def applyBinary (symbol : Text) (left right : Value) : Outcome :=
  match Arithmetic.ofSymbol? symbol with
  | some op => do
    let x ← left.toNumber
    let y ← right.toNumber
    let z ← op.apply x y
    .ok (.number z)
  | none => do
    let z ← left.compareBy symbol right
    .ok (.number z)

/-- The result of an eager function; a number has to be finite. -/
def finiteOutcome : Outcome → Outcome
  | .ok (.scalar (.number x)) => do
    let x ← finite x
    .ok (.number x)
  | outcome => outcome

/-- The result of a call, given its arguments and a way to evaluate formulas. -/
def applyCall (lib : Library) (name : Text) (args : List Formula) (evaluate : Formula → Outcome) :
    Outcome := do
  let entry ← lib.checkCount name args.length
  match entry.behaviour with
  | .lazy result => result args evaluate
  | .eager result =>
    let operands ← args.mapM evaluate
    finiteOutcome (result operands)

/-- The value of a formula nested at most `depth` deep. -/
def evalWithin (lib : Library) (reader : CellReader) : (depth : Nat) → Formula → Outcome
  | 0, _ => .error .nestingTooDeep
  | depth + 1, f =>
    match f with
    | .number x => .ok (.number x)
    | .text t => .ok (.scalar (.text t))
    | .ref a => do
      let v ← reader.read a
      .ok (.scalar v)
    | .range r => reader.readRange r
    | .call name args => applyCall lib name args (evalWithin lib reader depth)
    | .unary symbol operand => do
      let v ← evalWithin lib reader depth operand
      applyUnary symbol v
    | .binary symbol left right => do
      let v ← evalWithin lib reader depth left
      let w ← evalWithin lib reader depth right
      applyBinary symbol v w
    | .failed code message => .error (.formula (.failed code message))
    | .unknown => .error (.formula (.unevaluable .node))

/-- The value of a formula: a scalar, or the members of a range. -/
def eval (lang : Language) (reader : CellReader) (f : Formula) : Outcome :=
  evalWithin lang.toLibrary reader lang.limit.depth f

/-- What a cell holds for a value: nothing is zero, and a range is an error. -/
def cellValue : Value → Except Fault CellValue
  | .scalar .empty => .ok (.number 0)
  | .scalar (.number x) => do
    let x ← finite x
    .ok (.number x)
  | .scalar v => .ok v
  | _ => .error (.formula (.badOperand .rangeAsValue))

/-- The value that a cell with the given formula holds. -/
def evaluate (lang : Language) (reader : CellReader) (f : Formula) : Except Fault CellValue := do
  let v ← eval lang reader f
  cellValue v

end Spreadsheet
