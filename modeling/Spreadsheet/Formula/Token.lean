import Spreadsheet.Fault
import Spreadsheet.Number.Numeral

/-!
# Tokens

A formula is cut into numbers, strings, names and operators; white space between them is skipped.
`lexeme?` takes the longest lexeme from the front of a text, and `tokenize` cuts a whole text.
A string stands between quotes of either kind and writes a quote inside as two; when the quote is
never closed, the last doubled quote inside closes it early.
-/

namespace Spreadsheet

open Text

/-- The kinds of token. -/
inductive TokenKind where
  | number
  | string
  | name
  | operator
  deriving DecidableEq, Repr

/-- A token, its text and the position where it starts. -/
structure Token where
  kind : TokenKind
  text : Text
  pos : Nat
  deriving DecidableEq, Repr

namespace Token

/-! ## Lexemes -/

/-- What stands up to the end of a string whose opening quote has been read, the closing quote
included, and what follows it. -/
def closing? (quote : CodePoint) : Text → Option (Text × Text)
  | [] => none
  | c :: cs =>
    if c = quote then
      match cs with
      | [] => some ([quote], [])
      | d :: ds =>
        if d = quote then
          match closing? quote ds with
          | some (body, rest) => some (quote :: quote :: body, rest)
          | none => some ([quote], d :: ds)
        else some ([quote], d :: ds)
    else (closing? quote cs).map fun (body, rest) => (c :: body, rest)

/-- A string at the front of a text. -/
def string? : Text → Option (Text × Text)
  | c :: cs =>
    if c = doubleQuote || c = apostrophe then
      (closing? c cs).map fun (body, rest) => (c :: body, rest)
    else none
  | [] => none

/-- Whether a code point starts a name: an ASCII letter or an underscore. -/
def isNameStart (c : CodePoint) : Bool :=
  c.satisfies fun c => c.isAlpha || c = '_'

/-- Whether a code point continues a name. -/
def isNamePart (c : CodePoint) : Bool :=
  isNameStart c || c.satisfies Char.isDigit

/-- A name at the front of a text. -/
def name? : Text → Option (Text × Text)
  | c :: cs =>
    if isNameStart c then
      let (part, rest) := cut isNamePart cs
      some (c :: part, rest)
    else none
  | [] => none

/-- The operators of one character. -/
def singleOperators : List CodePoint :=
  ['-', '+', '*', '/', '(', ')', ',', ':', '<', '>', '=']

/-- The operators of two characters. -/
def doubleOperators : List (CodePoint × CodePoint) :=
  [('<', '>'), ('<', '='), ('>', '='), ('=', '='), ('!', '=')]

/-- An operator at the front of a text, the longer one if two fit. -/
def operator? : Text → Option (Text × Text)
  | [] => none
  | [c] => if c ∈ singleOperators then some ([c], []) else none
  | c :: d :: cs =>
    if (c, d) ∈ doubleOperators then some ([c, d], cs)
    else if c ∈ singleOperators then some ([c], d :: cs)
    else none

/-- What stands at the front of a text: white space, which has no kind, or a token. With it come
its own text and what follows it. -/
def lexeme? (cs : Text) : Option (Option TokenKind × Text × Text) :=
  match cut isBlank cs with
  | (blank :: blanks, rest) => some (none, blank :: blanks, rest)
  | ([], _) =>
    match Numeral.scan? cs with
    | some (n, rest) => some (some .number, n.spelling, rest)
    | none =>
      match string? cs with
      | some (chars, rest) => some (some .string, chars, rest)
      | none =>
        match name? cs with
        | some (chars, rest) => some (some .name, chars, rest)
        | none => (operator? cs).map fun (chars, rest) => (some .operator, chars, rest)

end Token

/-! ## A lexeme is a piece of the text -/

theorem Exponent.spelling_append {cs rest : Text} {e : Exponent}
    (h : Exponent.scan? cs = some (e, rest)) : e.spelling ++ rest = cs := by
  have digits {mark : CodePoint} {sign : Option CodePoint} {ds : Text}
      (h : scanDigits? mark sign ds = some (e, rest)) :
      e.spelling ++ rest = mark :: sign.toList ++ ds := by
    unfold scanDigits? at h
    split at h
    · simp at h
    · next hs =>
      simp only [Option.some.injEq, Prod.mk.injEq] at h
      obtain ⟨rfl, rfl⟩ := h
      simp [spelling, ← append_of_cut hs]
  unfold scan? at h
  split at h
  · split at h
    · split at h
      · split at h
        · simpa using digits h
        · simpa using digits h
      · simp at h
    · simp at h
  · simp at h

namespace Numeral

theorem withExponent_append {whole cs rest : Text} {fraction : Option (Text)}
    {n : Numeral} (h : withExponent whole fraction cs = (n, rest)) :
    n.spelling ++ rest = whole ++ fraction.elim [] (.char '.' :: ·) ++ cs := by
  unfold withExponent at h
  split at h
  · next hs =>
    obtain ⟨rfl, rfl⟩ := Prod.mk.inj h
    simp [spelling, ← Exponent.spelling_append hs]
  · obtain ⟨rfl, rfl⟩ := Prod.mk.inj h
    simp [spelling]

theorem spelling_append {cs rest : Text} {n : Numeral}
    (h : scan? cs = some (n, rest)) : n.spelling ++ rest = cs := by
  unfold scan? at h
  split at h
  · next hw =>
    split at h
    · simp at h
    · next hf =>
      have := withExponent_append (Option.some.inj h)
      simp [this, ← append_of_cut hw, ← append_of_cut hf]
  · simp at h
  · next hw =>
    have := withExponent_append (Option.some.inj h)
    simp [this, ← append_of_cut hw, append_of_cut rfl]
  · next hw =>
    have := withExponent_append (Option.some.inj h)
    simp [this, ← append_of_cut hw]

theorem spelling_ne_nil {cs rest : Text} {n : Numeral}
    (h : scan? cs = some (n, rest)) : n.spelling ≠ [] := by
  have spelled {whole ds : Text} {fraction : Option (Text)}
      (h : some (withExponent whole fraction ds) = some (n, rest))
      (hne : whole ≠ [] ∨ fraction.isSome) : n.spelling ≠ [] := by
    have h := Option.some.inj h
    unfold withExponent at h
    split at h <;> obtain ⟨rfl, -⟩ := Prod.mk.inj h <;> cases fraction <;> simp_all [spelling]
  unfold scan? at h
  split at h
  · split at h
    · simp at h
    · exact spelled h (.inr rfl)
  · simp at h
  · exact spelled h (.inr rfl)
  · next hne _ _ => exact spelled h (.inl fun hw => by simp_all)

end Numeral

namespace Token

theorem closing?_append {quote : CodePoint} {cs body rest : Text}
    (h : closing? quote cs = some (body, rest)) : body ++ rest = cs := by
  fun_induction closing? quote cs generalizing body rest <;> simp_all
  all_goals grind

theorem string?_append {cs chars rest : Text} (h : string? cs = some (chars, rest)) :
    chars ++ rest = cs ∧ chars ≠ [] := by
  unfold string? at h
  split at h
  · split at h
    · obtain ⟨⟨body, tail⟩, hb, he⟩ := Option.map_eq_some_iff.1 h
      obtain ⟨rfl, rfl⟩ := Prod.mk.inj he
      simp [closing?_append hb]
    · simp at h
  · simp at h

theorem name?_append {cs chars rest : Text} (h : name? cs = some (chars, rest)) :
    chars ++ rest = cs ∧ chars ≠ [] := by
  unfold name? at h
  split at h
  · split at h
    · obtain ⟨rfl, rfl⟩ := Prod.mk.inj (Option.some.inj h)
      simp [append_of_cut rfl]
    · simp at h
  · simp at h

theorem operator?_append {cs chars rest : Text} (h : operator? cs = some (chars, rest)) :
    chars ++ rest = cs ∧ chars ≠ [] := by
  have found {c d : Text} (h : some (c, d) = some (chars, rest)) (hc : c ≠ []) :
      chars ++ rest = c ++ d ∧ chars ≠ [] := by
    obtain ⟨rfl, rfl⟩ := Prod.mk.inj (Option.some.inj h)
    exact ⟨rfl, hc⟩
  unfold operator? at h
  split at h
  · simp at h
  · split at h
    · exact found h (by simp)
    · simp at h
  · split at h
    · exact found h (by simp)
    · split at h
      · exact found h (by simp)
      · simp at h

/-- A lexeme is not empty, and with what follows it makes up the text. -/
theorem lexeme?_append {cs chars rest : Text} {kind : Option TokenKind}
    (h : lexeme? cs = some (kind, chars, rest)) : chars ++ rest = cs ∧ chars ≠ [] := by
  unfold lexeme? at h
  split at h
  · next hb =>
    simp only [Option.some.injEq, Prod.mk.injEq] at h
    obtain ⟨-, rfl, rfl⟩ := h
    exact ⟨append_of_cut hb, by simp⟩
  · split at h
    · next hn =>
      simp only [Option.some.injEq, Prod.mk.injEq] at h
      obtain ⟨-, rfl, rfl⟩ := h
      exact ⟨Numeral.spelling_append hn, Numeral.spelling_ne_nil hn⟩
    · split at h
      · next hs =>
        simp only [Option.some.injEq, Prod.mk.injEq] at h
        obtain ⟨-, rfl, rfl⟩ := h
        exact string?_append hs
      · split at h
        · next hn =>
          simp only [Option.some.injEq, Prod.mk.injEq] at h
          obtain ⟨-, rfl, rfl⟩ := h
          exact name?_append hn
        · obtain ⟨⟨_, _⟩, ho, he⟩ := Option.map_eq_some_iff.1 h
          simp only [Prod.mk.injEq] at he
          obtain ⟨-, rfl, rfl⟩ := he
          exact operator?_append ho

theorem length_lt_of_lexeme? {cs chars rest : Text} {kind : Option TokenKind}
    (h : lexeme? cs = some (kind, chars, rest)) : rest.length < cs.length := by
  obtain ⟨rfl, hne⟩ := lexeme?_append h
  have := List.length_pos_iff.2 hne
  simp; omega

/-! ## Cutting a whole text -/

/-- The tokens of a text that starts at `pos`. -/
def scan (pos : Nat) (cs : Text) : Except Fault (List Token) :=
  match cs with
  | [] => .ok []
  | c :: ds =>
    match h : lexeme? (c :: ds) with
    | none => .error (.formula (.malformed (.unexpected [c] pos)))
    | some (kind, chars, rest) =>
      have : rest.length < (c :: ds).length := length_lt_of_lexeme? h
      match kind, scan (pos + chars.length) rest with
      | _, .error f => .error f
      | none, .ok tokens => .ok tokens
      | some kind, .ok tokens => .ok (⟨kind, chars, pos⟩ :: tokens)
termination_by cs.length
decreasing_by exact this

end Token

/-- The tokens of a text. -/
def tokenize (t : Text) : Except Fault (List Token) :=
  Token.scan 0 t

end Spreadsheet
