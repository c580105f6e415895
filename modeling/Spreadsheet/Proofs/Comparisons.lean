import Spreadsheet.Proofs.Evaluation.Values
import Spreadsheet.Proofs.Number.Order

/-!
# The comparisons as a family

Two values that compare are in one order, and every comparison tells of it; the other way round they
are in the opposite order (`CellValue.order?_swap`). Only a number and a text that writes none have
no order: they are unequal, and any question for their order is refused (`comparisons_coherent`).
-/

namespace Spreadsheet

/-! ## Comparisons the other way round -/

namespace Comparison

/-- The comparison that holds of two sides if this one holds of them the other way round. -/
def mirror : Comparison → Comparison
  | lt => gt
  | gt => lt
  | le => ge
  | ge => le
  | c => c

theorem holds_mirror (c : Comparison) (o : Option Ordering) :
    c.mirror.holds (o.map Ordering.swap) = c.holds o := by
  cases o with
  | none => cases c <;> rfl
  | some o => cases c <;> cases o <;> rfl

/-- The operator of the mirrored comparison. -/
def mirrorSymbol (symbol : Text) : Text :=
  if symbol = "<" then ">"
  else if symbol = ">" then "<"
  else if symbol = "<=" then ">="
  else if symbol = ">=" then "<="
  else symbol

theorem ofSymbol?_mirrorSymbol (symbol : Text) :
    ofSymbol? (mirrorSymbol symbol) = (ofSymbol? symbol).map mirror := by
  unfold mirrorSymbol
  split
  · next h => rw [h]; decide
  split
  · next h => rw [h]; decide
  split
  · next h => rw [h]; decide
  split
  · next h => rw [h]; decide
  · unfold ofSymbol?
    split
    · rfl
    split
    · rfl
    · simp [*]

theorem mirrorSymbol_of_ofSymbol?_eq_none {symbol : Text} (h : ofSymbol? symbol = none) :
    mirrorSymbol symbol = symbol := by
  have hne {s : Text} (hs : (ofSymbol? s).isSome) : symbol ≠ s := by
    rintro rfl
    rw [h] at hs
    cases hs
  rw [mirrorSymbol, if_neg (hne (by decide)), if_neg (hne (by decide)), if_neg (hne (by decide)),
    if_neg (hne (by decide))]

/-- The operators that ask for the order of two sides. -/
def orderingSymbols : List Text := ["<", ">", "<=", ">="]

end Comparison

/-! ## Sides -/

namespace Comparand

/-- A side that is no text, and no undefined or infinite number. -/
def IsFinite : Comparand → Prop
  | number x => x.isFinite
  | integer _ => True
  | text _ => False

variable {a b : Comparand}

theorem numericOrder_swap (a b : Comparand) :
    numericOrder b a = (numericOrder a b).map Ordering.swap := by
  cases a with
  | text => cases b <;> rfl
  | number x =>
    cases b with
    | text => rfl
    | number y => exact floatOrder_swap x y
    | integer n => rfl
  | integer m =>
    cases b with
    | text => rfl
    | number y =>
      show floatIntOrder y m = ((floatIntOrder y m).map Ordering.swap).map Ordering.swap
      cases floatIntOrder y m with
      | none => rfl
      | some o => exact congrArg some Ordering.swap_swap.symm
    | integer n => exact congrArg some (Int.compare_swap m n).symm

theorem order?_texts (t u : Text) :
    (text t).order? (text u) = some (some (compare t.upper u.upper)) := rfl

/-- Two sides of which one is no text compare by their numbers. -/
theorem order?_eq_bind (h : ∀ t u, a = text t → b ≠ text u) :
    a.order? b = a.numeric?.bind fun x => b.numeric?.map (numericOrder x) := by
  unfold order?
  split
  · exact (h _ _ rfl rfl).elim
  · cases a.numeric? with
    | none => rfl
    | some x => cases b.numeric? <;> rfl

theorem order?_swap (a b : Comparand) :
    b.order? a = (a.order? b).map (Option.map Ordering.swap) := by
  by_cases h : ∀ t u, a = text t → b ≠ text u
  · rw [order?_eq_bind h, order?_eq_bind fun u t hb ha => h t u ha hb]
    cases a.numeric? with
    | none => cases b.numeric? <;> rfl
    | some x =>
      cases b.numeric? with
      | none => rfl
      | some y => exact congrArg some (numericOrder_swap x y)
  · push Not at h
    obtain ⟨t, u, rfl, rfl⟩ := h
    exact congrArg (some ∘ some) Std.OrientedCmp.eq_swap

theorem exists_numericOrder (ha : a.IsFinite) (hb : b.IsFinite) :
    ∃ o, numericOrder a b = some o := by
  cases a with
  | text => exact ha.elim
  | number x =>
    cases b with
    | text => exact hb.elim
    | number y => exact exists_floatOrder ha hb
    | integer n => exact exists_floatIntOrder ha n
  | integer m =>
    cases b with
    | text => exact hb.elim
    | number y =>
      obtain ⟨o, ho⟩ := exists_floatIntOrder hb m
      exact ⟨o.swap, by rw [numericOrder, ho, Option.map_some]⟩
    | integer n => exact ⟨_, rfl⟩

theorem isFinite_of_numeric? {c : Comparand} (ha : ∀ x, a = number x → x.isFinite)
    (h : a.numeric? = some c) : c.IsFinite := by
  cases a with
  | text t =>
    obtain ⟨x, hx, rfl⟩ := Option.map_eq_some_iff.1 h
    exact isFinite_of_readNumber hx
  | number x =>
    cases h
    exact ha x rfl
  | integer n =>
    cases h
    trivial

/-- Sides that compare are in some order. -/
theorem exists_of_order?_eq_some (ha : ∀ x, a = number x → x.isFinite)
    (hb : ∀ x, b = number x → x.isFinite) {r : Option Ordering} (h : a.order? b = some r) :
    ∃ o, r = some o := by
  by_cases htexts : ∀ t u, a = text t → b ≠ text u
  · rw [order?_eq_bind htexts] at h
    obtain ⟨x, hx, h⟩ := Option.bind_eq_some_iff.1 h
    obtain ⟨y, hy, rfl⟩ := Option.map_eq_some_iff.1 h
    exact exists_numericOrder (isFinite_of_numeric? ha hx) (isFinite_of_numeric? hb hy)
  · push Not at htexts
    obtain ⟨t, u, rfl, rfl⟩ := htexts
    cases h
    exact ⟨_, rfl⟩

end Comparand

/-! ## Values -/

namespace CellValue

variable {a b : CellValue}

/-- What a value counts as beside another one: nothing is the empty text beside a text, and zero
otherwise. -/
def beside (other : CellValue) : CellValue → CellValue
  | empty =>
    match other with
    | text _ | error _ => text ""
    | empty | number _ | integer _ => number 0
  | v => v

/-- A number or an integer. -/
def IsNumeric : CellValue → Prop
  | number _ | integer _ => True
  | empty | text _ | error _ => False

/-- A text that writes no number. -/
def IsWord : CellValue → Prop
  | text t => readNumber t = none
  | error _ => True
  | empty | number _ | integer _ => False

/-- One side is a number and the other a text that writes none. -/
def Mixed (a b : CellValue) : Prop :=
  (beside b a).IsNumeric ∧ (beside a b).IsWord ∨ (beside b a).IsWord ∧ (beside a b).IsNumeric

theorem order?_swap (a b : CellValue) :
    b.order? a = (a.order? b).map (Option.map Ordering.swap) :=
  Comparand.order?_swap _ _

theorem readNumber_token (c : ErrorCode) : readNumber c.token = none := by
  cases c <;> decide

theorem order?_beside (a b : CellValue) : a.order? b = (beside b a).order? (beside a b) := by
  cases a <;> cases b <;> rfl

theorem beside_ne_empty (other v : CellValue) : beside other v ≠ empty := by
  cases v with
  | empty => cases other <;> nofun
  | number | integer | text | error => nofun

theorem order?_eq_none_iff_of_ne_empty (ha : a ≠ empty) (hb : b ≠ empty) :
    a.order? b = none ↔ a.IsNumeric ∧ b.IsWord ∨ a.IsWord ∧ b.IsNumeric := by
  cases a <;> cases b <;>
    simp [order?, Comparand.ofValue?, Comparand.order?_texts, Comparand.order?_eq_bind,
      Comparand.numeric?, IsNumeric, IsWord, readNumber_token,
      ← Option.eq_none_iff_forall_ne_some] at *

/-- Two values are without order exactly if a number meets a text that writes none. -/
theorem order?_eq_none_iff : a.order? b = none ↔ a.Mixed b := by
  rw [order?_beside]
  exact order?_eq_none_iff_of_ne_empty (beside_ne_empty _ _) (beside_ne_empty _ _)

/-- The sides of a comparison of finite values are finite. -/
theorem isFinite_side (ha : a.IsFinite) (other : Option Comparand) {x : Float}
    (h : (Comparand.ofValue? a).getD (.besideEmpty other) = .number x) : x.isFinite := by
  cases a with
  | empty =>
    have hzero : Comparand.besideEmpty other = .number x := h
    unfold Comparand.besideEmpty at hzero
    split at hzero
    · cases hzero
    · cases hzero
      decide
  | number y =>
    cases h
    exact ha
  | integer | text | error => cases h

theorem exists_order (ha : a.IsFinite) (hb : b.IsFinite) (h : ¬ a.Mixed b) :
    ∃ o, a.order? b = some (some o) := by
  rw [← order?_eq_none_iff] at h
  obtain ⟨r, hr⟩ := Option.ne_none_iff_exists'.1 h
  obtain ⟨o, rfl⟩ := Comparand.exists_of_order?_eq_some (fun _ => isFinite_side ha _)
    (fun _ => isFinite_side hb _) hr
  exact ⟨o, hr⟩

/-! ## Operators -/

variable {symbol : Text}

theorem compareBy_mirrorSymbol (symbol : Text) (a b : CellValue) :
    compareBy (Comparison.mirrorSymbol symbol) b a = compareBy symbol a b := by
  unfold compareBy
  rw [order?_swap, Comparison.ofSymbol?_mirrorSymbol]
  cases hc : Comparison.ofSymbol? symbol with
  | none =>
    rw [Comparison.mirrorSymbol_of_ofSymbol?_eq_none hc]
    cases a.order? b <;> rfl
  | some c =>
    cases a.order? b with
    | none => cases c <;> rfl
    | some o => exact congrArg (fun holds => Except.ok (truthNumber holds)) (c.holds_mirror o)

theorem compareBy_of_mixed (h : a.Mixed b) : compareBy symbol a b =
    match Comparison.ofSymbol? symbol with
    | some .eq => .ok 0
    | some .ne => .ok 1
    | _ => Value.badOperand .unordered := by
  rw [← order?_eq_none_iff] at h
  unfold compareBy
  rewrite [h]
  rfl

theorem compareBy_of_order {o : Ordering} {c : Comparison} {answer : Bool}
    (h : a.order? b = some (some o)) (hc : Comparison.ofSymbol? symbol = some c)
    (hanswer : c.holds (some o) = answer) : compareBy symbol a b = .ok (truthNumber answer) := by
  rw [← hanswer]
  simp only [compareBy, h, hc]

/-- What the operators say of two values. -/
structure Coherent (a b : CellValue) : Prop where
  /-- Both spellings of an operator say the same. -/
  eq_spelling : compareBy "=" a b = compareBy "==" a b
  ne_spelling : compareBy "<>" a b = compareBy "!=" a b
  /-- Either the values are equal or they are not. -/
  opposite : ∃ equal : Bool, compareBy "=" a b = .ok (truthNumber equal) ∧
    compareBy "<>" a b = .ok (truthNumber !equal)
  /-- The other way round the mirrored operator says the same, or fails alike. -/
  mirrored : ∀ symbol, compareBy symbol a b = compareBy (Comparison.mirrorSymbol symbol) b a
  /-- No order is told of a number and a text that writes none. -/
  refused : a.Mixed b → ∀ symbol ∈ Comparison.orderingSymbols,
    compareBy symbol a b = Value.badOperand .unordered
  /-- Of any others, just one of less, equal and greater holds, and the remaining operators tell
  that greater or less does not hold. -/
  ordered : ¬ a.Mixed b → ∃ o : Ordering,
    compareBy "<" a b = .ok (truthNumber (o == .lt)) ∧
    compareBy "=" a b = .ok (truthNumber (o == .eq)) ∧
    compareBy ">" a b = .ok (truthNumber (o == .gt)) ∧
    compareBy "<=" a b = .ok (truthNumber (o != .gt)) ∧
    compareBy ">=" a b = .ok (truthNumber (o != .lt))

theorem comparisons_coherent (ha : a.IsFinite) (hb : b.IsFinite) : Coherent a b where
  eq_spelling := rfl
  ne_spelling := rfl
  opposite := by
    by_cases h : a.Mixed b
    · exact ⟨false, compareBy_of_mixed h, compareBy_of_mixed h⟩
    · obtain ⟨o, ho⟩ := exists_order ha hb h
      exact ⟨o == .eq, compareBy_of_order ho rfl rfl, compareBy_of_order ho rfl rfl⟩
  mirrored symbol := (compareBy_mirrorSymbol symbol a b).symm
  refused h symbol hsymbol := by
    rw [compareBy_of_mixed h]
    simp only [Comparison.orderingSymbols, List.mem_cons, List.not_mem_nil, or_false] at hsymbol
    rcases hsymbol with rfl | rfl | rfl | rfl <;> rfl
  ordered h := by
    obtain ⟨o, ho⟩ := exists_order ha hb h
    refine ⟨o, compareBy_of_order ho rfl rfl, compareBy_of_order ho rfl rfl,
      compareBy_of_order ho rfl rfl, compareBy_of_order ho rfl ?_, compareBy_of_order ho rfl ?_⟩
    · cases o <;> rfl
    · cases o <;> rfl

/-- A number meets a word, which it is not equal to and has no order with; nothing meets a text,
beside which it is the empty text. -/
theorem comparisons_coherent_sides :
    (number 2).IsFinite ∧ (text "abc").IsFinite ∧ (number 2).Mixed (text "abc") ∧
      compareBy "<=" (number 2) (text "abc") = Value.badOperand .unordered ∧
      compareBy "=" (number 2) (text "abc") = compareBy "=" (text "abc") (number 2) ∧
      ¬ empty.Mixed (text "10") ∧ ∃ o : Ordering,
        compareBy "<" empty (text "10") = .ok (truthNumber (o == .lt)) ∧
        compareBy ">=" empty (text "10") = .ok (truthNumber (o != .lt)) := by
  have hnumber : (number 2).IsFinite := by
    show (2 : Float).isFinite
    decide
  have hword : (text "abc").IsFinite := trivial
  have hunread : readNumber "abc" = none := by decide
  have hmixed : (number 2).Mixed (text "abc") := .inl ⟨trivial, hunread⟩
  have hsides := comparisons_coherent hnumber hword
  have hordered : ¬ empty.Mixed (text "10") := by
    rintro (⟨h, -⟩ | ⟨-, h⟩) <;> exact h
  obtain ⟨o, hlt, -, -, -, hge⟩ :=
    (comparisons_coherent (a := empty) (b := text "10") trivial trivial).ordered hordered
  exact ⟨hnumber, hword, hmixed, hsides.refused hmixed "<=" (by decide), hsides.mirrored "=",
    hordered, o, hlt, hge⟩

end CellValue

end Spreadsheet
