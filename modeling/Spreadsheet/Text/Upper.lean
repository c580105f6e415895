import Spreadsheet.Text
import Spreadsheet.Text.UpperTable

/-!
# Upper case

Full upper-casing, character by character and without regard to context: `ß` becomes `SS`, a
ligature becomes its letters, and a character without an upper case stays as it is. So does a
surrogate.
-/

namespace Spreadsheet.Text

/-- The upper case of a character beyond ASCII. -/
def upperBeyondAscii (c : Char) : List Char :=
  match upperExpansions.lookup c.toNat with
  | some cs => cs
  | none =>
    match upperRuns.find? (·.covers c.toNat) with
    | some r => [Char.ofNat (c.toNat + r.shift).toNat]
    | none => [c]

/-- The upper case of a character, one character or several. -/
def upperChar (c : Char) : List Char :=
  if c.toNat < 128 then [c.toUpper] else upperBeyondAscii c

/-- The upper case of a code point. A surrogate has none of its own. -/
def upperPoint : CodePoint → Text
  | .char c => ofChars (upperChar c)
  | .surrogate n => [.surrogate n]

/-- The upper case of a text. -/
def upper (t : Text) : Text :=
  t.flatMap upperPoint

@[simp] theorem upper_nil : upper [] = [] := rfl

@[simp] theorem upper_cons (c : CodePoint) (t : Text) :
    upper (c :: t) = upperPoint c ++ upper t := rfl

end Spreadsheet.Text
