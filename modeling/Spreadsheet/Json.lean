import Spreadsheet.Text

/-!
# JSON values

Objects keep the order of their fields. An integer is told apart from a number with a point or an
exponent, which is kept as a mantissa and a power of ten. The words `NaN`, `Infinity` and
`-Infinity` are read as numbers that are not finite.
-/

namespace Spreadsheet

/-- A JSON value. -/
inductive Json where
  | null
  | bool (b : Bool)
  | integer (n : Int)
  | decimal (mantissa exponent : Int)
  | nonFinite
  | string (t : Text)
  | array (items : List Json)
  | object (fields : List (Text × Json))
  deriving Inhabited

namespace Json

/-- Sets a field. A field that is there already keeps its place. -/
def setField (fields : List (Text × Json)) (key : Text) (v : Json) : List (Text × Json) :=
  match fields with
  | [] => [(key, v)]
  | (k, w) :: rest => if k = key then (k, v) :: rest else (k, w) :: setField rest key v

/-- The value of a field of an object. -/
def field? (key : Text) : Json → Option Json
  | object fields => fields.lookup key
  | _ => none

/-- The fields of an object that has one field at most. -/
def fieldIfSome (key : Text) : Option Json → List (Text × Json)
  | some v => [(key, v)]
  | none => []

theorem lookup_fieldIfSome (key k : Text) (v : Option Json) :
    (fieldIfSome key v).lookup k = if k = key then v else none := by
  cases v with
  | none => simp [fieldIfSome]
  | some v =>
    by_cases h : k = key
    · simp [fieldIfSome, h]
    · simp [fieldIfSome, List.lookup_cons, h, beq_eq_false_iff_ne.2 h]

end Json

end Spreadsheet
