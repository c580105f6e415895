import Spreadsheet.Number.Order
import Spreadsheet.Value.Coercion

/-!
# Comparisons

Two texts compare without regard to case, two numbers by size, and a text that writes a number as
that number beside a number. An empty side is the empty text beside a text and zero otherwise.
A number and a text that writes none are not equal, and there is no order between them.
-/

namespace Spreadsheet

/-- The comparisons of the language. -/
inductive Comparison where
  | eq
  | ne
  | lt
  | gt
  | le
  | ge
  deriving DecidableEq, Repr

namespace Comparison

/-- The comparison that an operator stands for. -/
def ofSymbol? (symbol : Text) : Option Comparison :=
  if symbol = "=" || symbol = "==" then some eq
  else if symbol = "<>" || symbol = "!=" then some ne
  else if symbol = "<" then some lt
  else if symbol = ">" then some gt
  else if symbol = "<=" then some le
  else if symbol = ">=" then some ge
  else none

/-- Whether a comparison holds of two sides that compare as given; of sides that do not compare
only inequality holds. -/
def holds (c : Comparison) (o : Option Ordering) : Bool :=
  match c with
  | eq => o == some .eq
  | ne => o != some .eq
  | lt => o == some .lt
  | gt => o == some .gt
  | le => o == some .lt || o == some .eq
  | ge => o == some .gt || o == some .eq

end Comparison

/-- One side of a comparison. -/
inductive Comparand where
  | text (t : Text)
  | number (x : Float)
  | integer (n : Int)

namespace Comparand

/-- What a value is in a comparison; nothing if it is empty. -/
def ofValue? : CellValue → Option Comparand
  | .empty => none
  | .number x => some (number x)
  | .integer n => some (integer n.val)
  | .text t => some (text t)
  | .error c => some (text c.token)

/-- What an empty side is beside the other side. -/
def besideEmpty : Option Comparand → Comparand
  | some (text _) => text ""
  | _ => number 0

/-- A side that a number is compared with: a text counts as the number that it writes. -/
def numeric? : Comparand → Option Comparand
  | text t => (readNumber t).map number
  | c => some c

/-- How two sides compare that are not texts. -/
def numericOrder : Comparand → Comparand → Option Ordering
  | number x, number y => floatOrder x y
  | number x, integer n => floatIntOrder x n
  | integer n, number x => (floatIntOrder x n).map Ordering.swap
  | integer m, integer n => some (compare m n)
  | _, _ => none

/-- How two sides compare; nothing if one is a number and the other a text that writes none. -/
def order? (a b : Comparand) : Option (Option Ordering) :=
  match a, b with
  | text t, text u => some (some (compare t.upper u.upper))
  | a, b =>
    match a.numeric?, b.numeric? with
    | some a, some b => some (numericOrder a b)
    | _, _ => none

end Comparand

/-- How two values compare, an empty one according to the other. -/
def CellValue.order? (a b : CellValue) : Option (Option Ordering) :=
  let left := Comparand.ofValue? a
  let right := Comparand.ofValue? b
  (left.getD (.besideEmpty right)).order? (right.getD (.besideEmpty left))

/-- One if a condition holds and zero if not. -/
def truthNumber (b : Bool) : Float :=
  if b then 1 else 0

/-- The outcome of a comparison of two cell values by an operator. -/
def CellValue.compareBy (symbol : Text) (a b : CellValue) : Except Fault Float :=
  match a.order? b with
  | none =>
    match Comparison.ofSymbol? symbol with
    | some .eq => .ok 0
    | some .ne => .ok 1
    | _ => Value.badOperand .unordered
  | some o =>
    match Comparison.ofSymbol? symbol with
    | some c => .ok (truthNumber (c.holds o))
    | none => .error (.formula (.unevaluable (.operator symbol)))

/-- The outcome of a comparison by an operator; a range does not compare. -/
def Value.compareBy (symbol : Text) (a b : Value) : Except Fault Float :=
  match a, b with
  | scalar v, scalar w => v.compareBy symbol w
  | _, _ => badOperand .rangeInComparison

end Spreadsheet
