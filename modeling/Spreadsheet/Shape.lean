import Spreadsheet.Checked
import Spreadsheet.Json

/-!
# Data of a required shape

A `Shape` reads a JSON value as data of a type. It reads back what is written of the data, and
converts nothing: a value of another kind is at fault.
-/

namespace Spreadsheet

/-- A way to read JSON values as data of a type. -/
abbrev Shape (α : Type) := Json → Checked α

namespace Shape

variable {α : Type}

/-- A value that does not have the shape as a whole. -/
def mismatch : Checked α :=
  .wrong [[]]

/-! ## Single values -/

/-- A text. -/
def text : Shape Text
  | .string t => .ok t
  | _ => mismatch

/-- A truth value. -/
def flag : Shape Bool
  | .bool b => .ok b
  | _ => mismatch

/-- An integer. -/
def integer : Shape Int
  | .integer n => .ok n
  | _ => mismatch

/-- A text that names something. -/
def named (ofName? : Text → Option α) : Shape α
  | .string t =>
    match ofName? t with
    | some x => .ok x
    | none => mismatch
  | _ => mismatch

/-- Data or `null`. -/
def nullable (shape : Shape α) : Shape (Option α)
  | .null => .ok none
  | j => (shape j).map some

/-! ## Collections -/

/-- An object that maps any names to data of one shape. -/
def dictionary (shape : Shape α) : Shape (List (Text × α))
  | .object fields =>
    .all (fields.map fun (key, j) => ((shape j).map fun x => (key, x)).within key)
  | _ => mismatch

/-- An object with certain fields. Fields that are not asked for are left aside. -/
def record (read : List (Text × Json) → Checked α) : Shape α
  | .object fields => read fields
  | _ => mismatch

/-- A field that has to be there. -/
def required (key : Text) (shape : Shape α) (fields : List (Text × Json)) : Checked α :=
  match fields.lookup key with
  | some j => (shape j).within key
  | none => mismatch.within key

/-- A field that has a default. -/
def optional (key : Text) (default : α) (shape : Shape α) (fields : List (Text × Json)) :
    Checked α :=
  match fields.lookup key with
  | some j => (shape j).within key
  | none => .ok default

/-- A field that may be missing or `null`. -/
def setting (key : Text) (shape : Shape α) : List (Text × Json) → Checked (Option α) :=
  optional key none (nullable shape)

/-! ## Reading back -/

theorem nullable_of_ne_null {shape : Shape α} {j : Json} (h : j ≠ .null) :
    nullable shape j = (shape j).map some := by
  cases j <;> simp_all [nullable]

/-- A field written by `write` if there is a value reads back as that value. -/
theorem setting_of_lookup {fields : List (Text × Json)} {v : Option α} (shape : Shape α)
    (key : Text) (write : α → Json) (h : ∀ x, write x ≠ .null ∧ shape (write x) = .ok x)
    (hv : fields.lookup key = v.map write) : setting key shape fields = .ok v := by
  cases v with
  | none => simp [setting, optional, hv]
  | some x =>
    simp [setting, optional, hv, nullable_of_ne_null (h x).1, (h x).2, Checked.map,
      Checked.within]

/-- An object whose fields were written one by one reads back as the data that were written. -/
theorem dictionary_map {shape : Shape α} (write : α → Json) (h : ∀ x, shape (write x) = .ok x)
    (l : List (Text × α)) :
    dictionary shape (.object (l.map fun (key, x) => (key, write x))) = .ok l := by
  simpa [dictionary, h, Checked.map, Checked.within, Function.comp_def] using
    Checked.all_map_ok l

end Shape

end Spreadsheet
