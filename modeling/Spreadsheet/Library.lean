import Std.Data.ExtTreeMap
import Spreadsheet.Fault
import Spreadsheet.Formula
import Spreadsheet.Text.Blank
import Spreadsheet.Text.Upper

/-!
# Function libraries

A library is a set of named functions, looked up without regard to case. An entry says how many
operands its function takes and how it behaves: an eager function is given its operands, and a
lazy one is given the formulas of its arguments and a way to evaluate formulas.
-/

namespace Spreadsheet

open Std (ExtTreeMap)

/-- The outcome of evaluating a part of a formula. -/
abbrev Outcome := Except Fault Value

/-- How a function comes to its result. -/
inductive Behaviour where
  /-- A function of its operands. -/
  | eager (result : List Value → Outcome)
  /-- A function of the formulas that are its arguments, with a way to evaluate formulas. It may
  look at its arguments and evaluate what it likes, and as often as it likes. -/
  | lazy (result : List Formula → (Formula → Outcome) → Outcome)

namespace Behaviour

/-- Whether a function decides itself what is evaluated. -/
def isLazy : Behaviour → Bool
  | eager _ => false
  | lazy _ => true

end Behaviour

/-- A function of a library. -/
structure Entry where
  name : Text
  behaviour : Behaviour
  minCount : Int
  /-- The largest number of operands; without one there is no limit. -/
  maxCount : Option Int
  description : Text
  /-- A formula that shows the function at work. -/
  usage : Text

namespace Entry

/-- Whether a function takes the given number of operands. -/
def Takes (e : Entry) (count : Int) : Prop :=
  e.minCount ≤ count ∧ ∀ most ∈ e.maxCount, count ≤ most

instance (e : Entry) (count : Int) : Decidable (e.Takes count) :=
  inferInstanceAs (Decidable (_ ∧ _))

end Entry

/-- The functions that formulas can call, by their names in upper case. -/
structure Library where
  entries : ExtTreeMap Text Entry

namespace Library

/-- The library without functions. -/
def empty : Library :=
  ⟨∅⟩

/-- Adds an entry under its name and under every alias. -/
def register (lib : Library) (e : Entry) (aliases : List Text) : Library :=
  ⟨(e.name :: aliases).foldl (fun m name => m.insert (Text.upper name) e) lib.entries⟩

/-- The entry of a name, in any case. -/
def find? (lib : Library) (name : Text) : Option Entry :=
  lib.entries[Text.upper name]?

/-- Whether there is a function of the given name, in any case. -/
def contains (lib : Library) (name : Text) : Bool :=
  (lib.find? name).isSome

/-- The entry of a name, which must be there. -/
def get (lib : Library) (name : Text) : Except Fault Entry :=
  match lib.find? name with
  | some e => .ok e
  | none => .error (.unknownFunction (Text.upper name))

/-- The names of all functions and aliases, in order. -/
def names (lib : Library) : List Text :=
  lib.entries.keys

/-- The entry of a name, if it takes the given number of operands. -/
def checkCount (lib : Library) (name : Text) (count : Int) : Except Fault Entry := do
  let e ← lib.get name
  if e.Takes count then .ok e
  else .error (.formula (.badOperand (.count name count)))

/-- What a query looks for: its text without the leading `=` signs, in upper case. -/
def searchKey (query : Text) : Text :=
  (Text.trim (query.dropWhile (· == .char '='))).upper

/-- Whether a key stands somewhere in a text. -/
def occurs (key : Text) : Text → Bool
  | [] => key.isEmpty
  | c :: t => key.isPrefixOf (c :: t) || occurs key t

/-- The names that contain what a query looks for, in order, with their entries. -/
def suggestions (lib : Library) (query : Text) : List (Text × Entry) :=
  lib.entries.toList.filter fun p => occurs (searchKey query) p.1

end Library

end Spreadsheet
