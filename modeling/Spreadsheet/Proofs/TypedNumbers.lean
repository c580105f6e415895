import Spreadsheet.Library.Standard
import Spreadsheet.Proofs.Formula.Names
import Spreadsheet.Proofs.Number.Magnitude
import Spreadsheet.Proofs.Sheet.Operation

/-!
# Numbers typed plainly and as formulas

A text that is read as a number is a numeral with white space around it and a sign before it or none
(`exists_numeral_of_readNumber`). Behind the mark of a formula the same text is read as the numeral
with the sign as a prefix operator (`exists_parse_of_readNumber`), which evaluates to the same
number (`evaluate_signedNumber`). So a cell holds the same value either way (`read_typedNumber`).
-/

namespace Spreadsheet

open Text

/-- The number that a numeral stands for with a sign before it, or without one. -/
def withSign (sign : Option CodePoint) (x : Float) : Float :=
  if sign = some (.char '-') then -x else x

/-- The formula of a number with a sign before it, or without one. -/
def Formula.signedNumber (x : Float) : Option CodePoint → Formula
  | none => .number x
  | some c => .unary [c] (.number x)

/-- A text is a numeral that writes a finite number, with a sign before it or without one. -/
structure IsSignedNumeral (t : Text) (sign : Option CodePoint) (n : Numeral) : Prop where
  eq_append : t = sign.toList ++ n.spelling
  isSign : ∀ c ∈ sign, c = .char '+' ∨ c = .char '-'
  ofText? : Numeral.ofText? n.spelling = some n
  isFinite : n.value.isFinite

section Numeral

variable {t : Text} {sign : Option CodePoint} {n : Numeral} {x : Float}

theorem exists_sign_of_splitSign (t : Text) : ∃ sign : Option CodePoint,
    (∀ c ∈ sign, c = .char '+' ∨ c = .char '-') ∧ t = sign.toList ++ (splitSign t).2 ∧
      ((splitSign t).1 = true ↔ sign = some (.char '-')) := by
  unfold splitSign
  split
  · exact ⟨some (.char '-'), by simp, rfl, by simp⟩
  · exact ⟨some (.char '+'), by simp, rfl, by simp⟩
  · exact ⟨none, by simp, rfl, by simp⟩

theorem signedValue?_eq (t : Text) : signedValue? t =
    (Numeral.ofText? (splitSign t).2).map fun n =>
      if (splitSign t).1 = true then -n.value else n.value :=
  rfl

theorem isFinite_withSign : (withSign sign x).isFinite ↔ x.isFinite := by
  unfold withSign
  split
  · exact ⟨isFinite_of_neg, isFinite_neg⟩
  · rfl

theorem exists_numeral_of_readNumber (h : readNumber t = some x) :
    ∃ sign n, IsSignedNumeral (trim t) sign n ∧ x = withSign sign n.value := by
  obtain ⟨hvalue, hfinite⟩ := Option.filter_eq_some_iff.1 h
  rw [signedValue?_eq] at hvalue
  obtain ⟨n, hn, rfl⟩ := Option.map_eq_some_iff.1 hvalue
  obtain ⟨sign, hsign, heq, hnegative⟩ := exists_sign_of_splitSign (trim t)
  simp only [hnegative] at hfinite ⊢
  refine ⟨sign, n, ⟨?_, hsign, ?_, isFinite_withSign.1 hfinite⟩, rfl⟩
  · rw [Numeral.spelling_of_ofText? hn, ← heq]
  · rw [Numeral.spelling_of_ofText? hn, hn]

theorem IsSignedNumeral.ne_nil (h : IsSignedNumeral t sign n) : t ≠ [] := by
  rw [h.eq_append]
  intro hnil
  exact Numeral.spelling_ne_nil (Numeral.ofText?_eq_some_iff.1 h.ofText?)
    (List.append_eq_nil_iff.1 hnil).2

/-- A number is not taken for a formula. -/
theorem IsSignedNumeral.head?_ne_mark (h : IsSignedNumeral t sign n) :
    t.head? ≠ some (.char '=') := by
  intro hhead
  obtain ⟨rest, rfl⟩ := List.head?_eq_some_iff.1 hhead
  cases sign with
  | none =>
    have hspelling : n.spelling = .char '=' :: rest := h.eq_append.symm
    have hscan := Numeral.ofText?_eq_some_iff.1 h.ofText?
    rw [hspelling, Numeral.scan?_eq_none (by decide) (by decide)] at hscan
    cases hscan
  | some c =>
    obtain rfl : .char '=' = c := (List.cons.inj h.eq_append).1
    rcases h.isSign _ rfl with hc | hc <;> cases hc

end Numeral

namespace Formula

variable {isFunction : Text → Bool} {t : Text} {sign : Option CodePoint} {n : Numeral} {x : Float}

theorem primary_numeral (hn : Numeral.ofText? t = some n) (hfinite : n.value.isFinite) (pos : Nat)
    (expression : Reader) : primary isFunction expression [⟨.number, t, pos⟩] =
      (Except.ok (.number n.value)).map (·, []) := by
  simp only [primary, literal, hn, if_pos hfinite]
  rfl

theorem ofTokens_signedNumber (h : IsSignedNumeral t sign n) (pos : Nat) :
    ∃ ts, Token.scan pos t = .ok ts ∧
      ∀ limit isFunction, ofTokens limit isFunction ts = .ok (signedNumber n.value sign) := by
  obtain rfl := h.eq_append
  cases sign with
  | none =>
    exact ⟨_, Token.scan_numeral h.ofText?, fun limit isFunction =>
      ofTokens_of_primary rfl (primary_numeral h.ofText? h.isFinite pos)⟩
  | some c =>
    have hsign := h.isSign c rfl
    have hoperator : isOperator sumSymbols ⟨.operator, [c], pos⟩ = true := by
      rcases hsign with rfl | rfl <;> rfl
    refine ⟨[⟨.operator, [c], pos⟩, ⟨.number, n.spelling, pos + 1⟩], ?_, fun limit isFunction =>
      ofTokens_of_sign hoperator rfl (primary_numeral h.ofText? h.isFinite _)⟩
    rw [Option.toList_some, List.singleton_append, Token.scan_sign hsign,
      Token.scan_numeral h.ofText?]
    rfl

theorem exists_parse_of_readNumber (h : readNumber t = some x) :
    ∃ sign y, y.isFinite ∧ x = withSign sign y ∧
      ∀ limit isFunction, parse limit isFunction (.char '=' :: t) = .ok (signedNumber y sign) := by
  obtain ⟨sign, n, hnumeral, rfl⟩ := exists_numeral_of_readNumber h
  obtain ⟨pos, hparse⟩ := exists_parse_mark hnumeral.ne_nil
  obtain ⟨ts, hscan, hread⟩ := ofTokens_signedNumber hnumeral pos
  refine ⟨sign, n.value, hnumeral.isFinite, rfl, fun limit isFunction => ?_⟩
  rw [hparse, hscan]
  exact hread limit isFunction

theorem keepsToArguments_signedNumber {lib : Library} (sign : Option CodePoint) (x : Float) :
    (signedNumber x sign).KeepsToArguments lib := by
  intro name args e hpart
  cases sign with
  | none => cases hpart
  | some c =>
    cases hpart with
    | unary hpart => cases hpart

theorem leaves_signedNumber (sign : Option CodePoint) (x : Float) :
    (signedNumber x sign).leaves = [] := by
  cases sign <;> rfl

/-- A cell holds a finite number that its formula has as its value. -/
theorem evaluate_of_eval {lang : Language} {reader : CellReader} {f : Formula} {x : Float}
    (heval : eval lang reader f = .ok (.number x)) (hx : x.isFinite) :
    evaluate lang reader f = .ok (.number x) := by
  rw [evaluate, heval]
  show (finite x >>= fun x => Except.ok (CellValue.number x)) = _
  rw [finite, if_pos hx]
  rfl

theorem evaluate_signedNumber (lang : Language) (reader : CellReader) (sign : Option CodePoint)
    (hx : x.isFinite) :
    evaluate lang reader (signedNumber x sign) = .ok (.number (withSign sign x)) := by
  obtain ⟨depth, hdepth⟩ := lang.limit.exists_depth_eq
  have heval : eval lang reader (signedNumber x sign) = .ok (.number (withSign sign x)) := by
    rw [eval, hdepth]
    cases sign with
    | none => rfl
    | some c =>
      have hminus : some c = some (.char '-') ↔ ([c] : Text) = "-" := by
        rw [Option.some.injEq]
        exact List.singleton_inj.symm
      show applyUnary [c] (.number x) = _
      simp only [withSign, hminus]
      rfl
  exact evaluate_of_eval heval (isFinite_withSign.2 hx)

end Formula

/-! ## Cells -/

namespace Content

variable {lang : Language} {t : Text} {x : Float}

theorem read_number (h : readNumber t = some x) :
    read lang t = .ok (.literal (.number x)) := by
  obtain ⟨sign, n, hnumeral, -⟩ := exists_numeral_of_readNumber h
  rw [read, if_neg hnumeral.head?_ne_mark, h]

theorem read_mark_number (h : readNumber t = some x) {f : Formula}
    (hf : Formula.parse lang.limit lang.contains (.char '=' :: t) = .ok f) :
    read lang (.char '=' :: t) = .ok (.formula f) := by
  obtain ⟨sign, n, hnumeral, -⟩ := exists_numeral_of_readNumber h
  obtain ⟨front, -, htrim⟩ := exists_trim_cons (c := .char '=') (by decide) hnumeral.ne_nil
  rw [read, htrim, if_pos List.head?_cons, readFormula, hf]

end Content

/-- A text that writes a number is kept as that number, and behind the mark of a formula as a
formula that evaluates to it, whatever the functions and the other cells are. In a sheet both cells
hold the number. -/
theorem read_typedNumber {t : Text} {x : Float} (h : readNumber t = some x) (lang : Language) :
    Content.read lang t = .ok (.literal (.number x)) ∧
      (∃ f, Content.read lang (.char '=' :: t) = .ok (.formula f) ∧
        ∀ lang' reader, evaluate lang' reader f = .ok (.number x)) ∧
      ∀ s a, Sheet.Reached lang s →
        s.grid.raw? a = some t ∨ s.grid.raw? a = some (.char '=' :: t) →
          s.grid.value a = .number x := by
  obtain ⟨sign, y, hy, rfl, hparse⟩ := Formula.exists_parse_of_readNumber h
  have hplain : Content.read lang t = .ok (.literal (.number (withSign sign y))) :=
    Content.read_number h
  have hformula := Content.read_mark_number h (hparse lang.limit lang.contains)
  refine ⟨hplain, ⟨_, hformula, fun lang' reader => ?_⟩, fun s a hs hraw => ?_⟩
  · exact Formula.evaluate_signedNumber lang' reader sign hy
  · rcases hraw with hraw | hraw
    · exact hs.value_eq_of_literal (hs.content?_eq hraw hplain)
    · rw [hs.value_eq_of_leaves (hs.content?_eq hraw hformula) (Formula.leaves_signedNumber sign y)
        (Formula.keepsToArguments_signedNumber sign y), Grid.outcome,
        Formula.evaluate_signedNumber lang _ sign hy]

/-- The digits of any script and white space of any kind make no difference. -/
theorem read_typedNumber_arabic :
    readNumber " -١.5E+1 " = some (-15) ∧
      Content.read (.standard .usual) " -١.5E+1 " = .ok (.literal (.number (-15))) ∧
      ∃ f, Content.read (.standard .usual) "= -١.5E+1 " = .ok (.formula f) ∧
        evaluate (.standard .usual) (.dense fun _ => .empty) f = .ok (.number (-15)) := by
  have hread : readNumber " -١.5E+1 " = some (-15) := by decide +kernel
  obtain ⟨hplain, ⟨f, hf, heval⟩, -⟩ := read_typedNumber hread (.standard .usual)
  exact ⟨hread, hplain, f, hf, heval _ _⟩

end Spreadsheet
