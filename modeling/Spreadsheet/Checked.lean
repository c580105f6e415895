import Std.Data.ExtTreeSet
import Spreadsheet.Fault

/-!
# Checked data

Data that come from outside are checked before they are used. Data at fault are so in one or more
places, and all of them are reported: `Checked.apply` keeps the places of both sides.
-/

namespace Spreadsheet

/-- Data, or the places at fault, each given by the names and positions that lead to it. -/
inductive Checked (α : Type) where
  | ok (x : α)
  | wrong (places : List (List Text))

namespace Checked

variable {α β : Type}

/-- The places at fault. -/
def places : Checked α → List (List Text)
  | ok _ => []
  | wrong ps => ps

/-- Applies a function to checked data. -/
def map (f : α → β) : Checked α → Checked β
  | ok x => ok (f x)
  | wrong ps => wrong ps

/-- Applies a checked function to checked data. -/
def apply : Checked (α → β) → Checked α → Checked β
  | ok f, x => x.map f
  | wrong ps, x => wrong (ps ++ x.places)

instance : Applicative Checked where
  pure := ok
  map := map
  seq f x := f.apply (x ())

/-- The data of a field or item, whose places at fault lie within it. -/
def within (step : Text) : Checked α → Checked α
  | ok x => ok x
  | wrong ps => wrong (ps.map fun p => step :: p)

/-- The data of a list, if every item has them. -/
def all : List (Checked α) → Checked (List α)
  | [] => ok []
  | x :: xs => (x.map List.cons).apply (all xs)

theorem all_map_ok (l : List α) : all (l.map ok) = ok l := by
  induction l with
  | nil => rfl
  | cons x l ih => simp [all, ih, map, apply]

/-- The places at fault as dotted paths that can be read, in order and each once. -/
def paths (c : Checked α) : List String :=
  (Std.ExtTreeSet.ofList (c.places.map fun p => Text.legible (List.intercalate "." p))).toList

/-- The data, or the fault that they do not have the required shape. -/
def toExcept (c : Checked α) : Except Fault α :=
  match c with
  | ok x => .ok x
  | wrong _ => .error (.invalid c.paths)

end Checked

end Spreadsheet
