/-!
# Texts

A text is a list of code points. The surrogates, which stand for no character, can be among them,
so `CodePoint` adds them to `Char`. Code points are ordered by their number, and texts one code
point after the other. `Text.ofString` makes a text of characters, and a string literal is taken
for such a text. A text `IsWellFormed` if every code point of it is a character.
-/

namespace Spreadsheet

/-- A code point: a character, or the surrogate with the given place among the 2048 surrogates. -/
inductive CodePoint where
  | char (c : Char)
  | surrogate (n : Fin 2048)
  deriving DecidableEq, Repr, Inhabited

namespace CodePoint

instance : Coe Char CodePoint :=
  ⟨char⟩

/-- The number of a code point. -/
def number : CodePoint → Nat
  | char c => c.toNat
  | surrogate n => 0xD800 + n

/-- The code point of a number below `0x110000`. -/
def ofNumber (n : Nat) : CodePoint :=
  if h : 0xD800 ≤ n ∧ n < 0xE000 then surrogate ⟨n - 0xD800, by omega⟩ else char (Char.ofNat n)

/-- The number of a code point tells which one it is. -/
theorem ofNumber_number (c : CodePoint) : ofNumber c.number = c := by
  cases c with
  | char c =>
    have hc : c.toNat < 0xD800 ∨ (0xDFFF < c.toNat ∧ c.toNat < 0x110000) := c.valid
    rw [ofNumber, dif_neg (by simp only [number]; omega)]
    simp [number]
  | surrogate n =>
    rw [ofNumber, dif_pos (by simp only [number]; omega)]
    simp [number]

/-- No two code points have the same number. -/
theorem number_injective {a b : CodePoint} (h : a.number = b.number) : a = b := by
  rw [← ofNumber_number a, h, ofNumber_number]

instance : Ord CodePoint :=
  ⟨compareOn number⟩

instance : Std.TransOrd CodePoint :=
  inferInstanceAs (Std.TransCmp (compareOn number))

instance : Std.LawfulEqOrd CodePoint where
  eq_of_compare {_ _} h := number_injective (Std.LawfulEqOrd.eq_of_compare (α := Nat) h)

/-- Whether a code point is a character with a property. -/
def satisfies (p : Char → Bool) : CodePoint → Bool
  | char c => p c
  | surrogate _ => false

/-- The characters that stand for a code point where only characters can stand: for a surrogate,
one replacement character for each of its three bytes. -/
def legible : CodePoint → List Char
  | char c => [c]
  | surrogate _ => ['\ufffd', '\ufffd', '\ufffd']

end CodePoint

/-- A text. -/
abbrev Text := List CodePoint

namespace Text

/-- The text of a list of characters. -/
def ofChars (cs : List Char) : Text :=
  cs.map .char

/-- The text of a string. -/
def ofString (s : String) : Text :=
  ofChars s.toList

instance : Coe String Text :=
  ⟨ofString⟩

/-- A text as a string, with replacement characters in the place of surrogates. -/
def legible (t : Text) : String :=
  String.ofList (t.flatMap CodePoint.legible)

/-- A text without surrogates. -/
def IsWellFormed (t : Text) : Prop :=
  ∀ c ∈ t, c.satisfies (fun _ => true) = true

instance (t : Text) : Decidable (IsWellFormed t) :=
  inferInstanceAs (Decidable (∀ c ∈ t, c.satisfies (fun _ => true) = true))

@[simp] theorem ofChars_nil : ofChars [] = [] := rfl

@[simp] theorem ofChars_cons (c : Char) (cs : List Char) :
    ofChars (c :: cs) = .char c :: ofChars cs := rfl

@[simp, grind =] theorem ofString_inj {s t : String} : ofString s = ofString t ↔ s = t := by
  constructor
  · intro h
    exact String.toList_inj.1 ((List.map_inj_right fun _ _ h => by cases h; rfl).1 h)
  · rintro rfl
    rfl

@[simp] theorem ofString_beq (s t : String) : (ofString s == ofString t) = (s == t) := by
  rw [Bool.eq_iff_iff]
  simp

end Text

end Spreadsheet
