import Spreadsheet.Language
import Spreadsheet.Number.Order
import Spreadsheet.Value.Coercion
import Spreadsheet.Value.Display

/-!
# The standard library

Sums and averages count what is not a number as zero, the extrema leave it out. An average divides
by the number of addresses that its ranges stand for, so a range may leave out its empty members.
The sum of no operands is the integer zero.
-/

namespace Spreadsheet

namespace Standard

/-- The operands of a list of arguments, the members of ranges in their place. -/
def flatten (args : List Value) : List CellValue :=
  args.flatMap Value.operands

/-- The number that a sum adds for a value; what is not a number adds zero. -/
def addend (v : CellValue) : Float :=
  v.number?.getD 0

/-- The addends added up from left to right. A negative zero adds nothing. -/
def total (vs : List CellValue) : Float :=
  vs.foldl (fun sum v => sum + addend v) 0

/-- The sum of all operands. -/
def sum (args : List Value) : Outcome :=
  match flatten args with
  | [] => .ok (.scalar (.integer 0))
  | vs => .ok (.number (total vs))

/-- What one argument adds to an average: its total and the number of operands it stands for. An
array is one operand that is not a number. -/
def share : Value → Float × Int
  | .scalar v => (addend v, 1)
  | .range members size => (total members, size)
  | .array _ => (0, 1)

/-- The totals of the arguments added up, over the number of operands. -/
def average (args : List Value) : Outcome :=
  let whole := args.foldl (fun sum arg => sum + (share arg).1) 0
  let count := args.foldl (fun n arg => n + (share arg).2) 0
  if count = 0 then .ok (.number 0)
  else
    let divisor := nearestToInt count
    if divisor.isInf then .error .countTooLarge
    else .ok (.number (whole / divisor))

/-- Whether a count includes a value: anything but nothing and the empty text. -/
def isCounted : CellValue → Bool
  | .empty => false
  | .text t => !t.isEmpty
  | _ => true

/-- The number of operands that are not empty. -/
def count (args : List Value) : Outcome :=
  .ok (.number (Float.ofNat ((flatten args).countP isCounted)))

/-- The numbers among the operands. -/
def numbers (args : List Value) : List Float :=
  (flatten args).filterMap CellValue.number?

/-- The first of the numbers that beats all before it, zero if there are none. -/
def extremum (beats : Float → Float → Bool) : List Float → Float
  | [] => 0
  | x :: xs => xs.foldl (fun best y => if beats y best then y else best) x

/-- The smallest number. -/
def minimum (args : List Value) : Outcome :=
  .ok (.number (extremum (fun x y => x < y) (numbers args)))

/-- The largest number. -/
def maximum (args : List Value) : Outcome :=
  .ok (.number (extremum (fun x y => y < x) (numbers args)))

/-- The displayed texts of all operands, joined. -/
def concat (args : List Value) : Outcome := do
  let texts ← (flatten args).mapM CellValue.display
  .ok (.scalar (.text texts.flatten))

/-- The second operand if the first one is true, and otherwise the third; the one not chosen is
not evaluated. -/
def choose {ν : Type} (args : List ν) (evaluate : ν → Outcome) : Outcome :=
  match args with
  | [] => .error .missingOperand
  | condition :: branches => do
    let holds ← (← evaluate condition).isTrue
    match branches[if holds then 0 else 1]? with
    | some branch => evaluate branch
    | none => .error .missingOperand

/-- The functions of the standard library. -/
inductive Function where
  | sum
  | average
  | minimum
  | maximum
  | count
  | choose
  | concat
  deriving DecidableEq, Repr

namespace Function

/-- All standard functions. -/
def all : List Function :=
  [sum, average, minimum, maximum, count, choose, concat]

/-- How a standard function comes to its result. -/
def behaviour : Function → Behaviour
  | sum => .eager Standard.sum
  | average => .eager Standard.average
  | minimum => .eager Standard.minimum
  | maximum => .eager Standard.maximum
  | count => .eager Standard.count
  | choose => .lazy Standard.choose
  | concat => .eager Standard.concat

/-- The entry of a standard function. -/
def entry (f : Function) : Entry :=
  match f with
  | sum => ⟨"SUM", f.behaviour, 0, none, "Sums a range of cells.", "=SUM(A1:A5)"⟩
  | average => ⟨"AVG", f.behaviour, 0, none, "Arithmetic mean.", "=AVG(B1:B10)"⟩
  | minimum => ⟨"MIN", f.behaviour, 1, none, "Smallest numeric value.", "=MIN(C1:C5)"⟩
  | maximum => ⟨"MAX", f.behaviour, 1, none, "Largest numeric value.", "=MAX(D1:D5)"⟩
  | count => ⟨"COUNT", f.behaviour, 0, none, "Counts non-empty cells.", "=COUNT(A1:A5)"⟩
  | choose =>
    ⟨"IF", f.behaviour, 3, some 3, "Logical condition.", "=IF(A1>10, \"High\", \"Low\")"⟩
  | concat => ⟨"CONCAT", f.behaviour, 1, none, "Joins text.", "=CONCAT(\"Hello \", A1)"⟩

/-- The other names of a standard function. -/
def aliases : Function → List Text
  | average => ["MEDIA", "AVERAGE"]
  | _ => []

/-- The standard function of a name or an alias, in any case. -/
def ofName? (name : Text) : Option Function :=
  all.find? fun f => (f.entry.name :: f.aliases).contains (Text.upper name)

end Function

end Standard

/-- The library of all standard functions. -/
def Library.standard : Library :=
  Standard.Function.all.foldl (fun lib f => lib.register f.entry f.aliases) .empty

/-- The language of all standard functions. -/
def Language.standard (limit : NestingLimit) : Language :=
  ⟨.standard, limit⟩

end Spreadsheet
