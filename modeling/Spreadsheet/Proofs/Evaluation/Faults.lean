import Mathlib.Tactic.Linarith
import Spreadsheet.Proofs.Evaluation.Origins
import Spreadsheet.Proofs.Formula.Grammar

/-!
# Faults of formulas

A legal formula that is evaluated with the standard library fails with an error of the language, at
a limit that its size exceeds, or because an integer arises on the way (`fails_of_evalWithin`).
There is a function for every name, a choice has its three operands, and every value has a text.
-/

namespace Spreadsheet

open Standard (Function)

/-- The faults that are no surprise for a formula of a certain size that is evaluated to a certain
depth: the errors of the language, nesting below that depth, and averages of astronomical counts. -/
inductive Fault.Expected (depth size : Nat) : Fault → Prop
  | formula (e : FormulaError) : Expected depth size (.formula e)
  | nestingTooDeep (h : depth < size) : Expected depth size .nestingTooDeep
  | countTooLarge (h : 2 ^ 222 ≤ size) : Expected depth size .countTooLarge

/-- How a formula may fail: as expected, or because a part of it that is evaluated is an integer. -/
inductive Fails (lib : Library) (reader : CellReader) (depth : Nat) (f : Formula) : Fault → Prop
  | expected {fault : Fault} (h : fault.Expected depth f.size) : Fails lib reader depth f fault
  | integer {n : Nat} {g : Formula} {z : ShortInt} (h : Evaluates lib reader depth f n g)
    (hinteger : evalWithin lib reader n g = .ok (.scalar (.integer z))) :
    Fails lib reader depth f .integerOperand

/-! ## Legal formulas -/

theorem CellRange.size_bounds {r : CellRange} (hstart : r.start.InBounds)
    (hstop : r.stop.InBounds) : 0 ≤ r.size ∧ r.size ≤ 2 ^ 34 := by
  obtain ⟨hr, hr', hc, hc'⟩ := hstart
  obtain ⟨hs, hs', hd, hd'⟩ := hstop
  unfold Address.maxRows at hr' hs'
  unfold Address.maxColumns at hc' hd'
  have hheight : 0 ≤ r.height ∧ r.height ≤ 2 ^ 20 := by
    unfold height normalized
    dsimp only
    omega
  have hwidth : 0 ≤ r.width ∧ r.width ≤ 2 ^ 14 := by
    unfold width normalized
    dsimp only
    omega
  exact ⟨Int.mul_nonneg hheight.1 hwidth.1,
    Int.mul_le_mul hheight.2 hwidth.2 hwidth.1 (by decide)⟩

namespace Formula.Legal

variable {isFunction : Text → Bool} {f : Formula}

theorem finiteNumbers (h : f.Legal isFunction) : f.FiniteNumbers := by
  induction h with
  | number hx => exact .number hx
  | text t => exact .text t
  | ref => exact .ref _
  | range => exact .range _
  | call _ _ ih => exact .call _ ih
  | unary _ _ ih => exact .unary _ ih
  | binary _ _ _ ihl ihr => exact .binary _ ihl ihr

/-- The size of a range that is mentioned. -/
theorem size_bounds (h : f.Legal isFunction) {r : CellRange} (hr : .range r ∈ f.leaves) :
    0 ≤ r.size ∧ r.size ≤ 2 ^ 34 := by
  induction h with
  | number | text | ref => simp [leaves] at hr
  | range hstart hstop =>
    simp only [leaves, List.mem_singleton, Reference.range.injEq] at hr
    subst hr
    exact CellRange.size_bounds hstart hstop
  | call _ _ ih =>
    obtain ⟨arg, harg, hr⟩ := mem_leavesAll_iff.1 hr
    exact ih arg harg hr
  | unary _ _ ih => exact ih hr
  | binary _ _ _ ihl ihr => exact (List.mem_append.1 hr).elim ihl ihr

end Formula.Legal

/-! ## Formulas -/

section Evaluation

variable {lib : Library} {reader : CellReader} {depth n : Nat} {f g : Formula} {v : Value}
  {fault : Fault}

theorem Formula.Legal.of_part {isFunction : Text → Bool} (hf : f.Legal isFunction)
    (hpart : f.Contains g) : g.Legal isFunction := by
  induction hpart with
  | self => exact hf
  | operand harg _ ih =>
    cases hf with
    | call _ h => exact ih (h _ harg)
  | unary _ ih =>
    cases hf with
    | unary _ h => exact ih h
  | left _ ih =>
    cases hf with
    | binary _ hl _ => exact ih hl
  | right _ ih =>
    cases hf with
    | binary _ _ hr => exact ih hr

/-- The number of operands that a value stands for. -/
theorem Possible.share_bounds
    (hsize : ∀ r, .range r ∈ f.leaves → 0 ≤ r.size ∧ r.size ≤ 2 ^ 34)
    (h : Possible lib reader depth f v) :
    0 ≤ (Standard.share v).2 ∧ (Standard.share v).2 ≤ 2 ^ 34 := by
  cases h with
  | range hr => exact hsize _ hr
  | number | text | integer | cell =>
    show (0 : Int) ≤ 1 ∧ (1 : Int) ≤ 2 ^ 34
    decide

theorem takes_of_checkCount {name : Text} {count : Int} {e : Entry}
    (h : lib.checkCount name count = .ok e) : e.Takes count := by
  obtain ⟨e', -, h⟩ := bind_eq_ok.1 h
  split at h
  · next htakes =>
    cases h
    exact htakes
  · cases h

theorem eq_of_checkCount_eq_error {name : Text} {count : Int} (hname : lib.contains name)
    (h : lib.checkCount name count = .error fault) :
    fault = .formula (.badOperand (.count name count)) := by
  obtain ⟨e, he⟩ := Option.isSome_iff_exists.1 hname
  rcases bind_eq_error.1 h with hget | ⟨e', -, h⟩
  · rw [Library.get, he] at hget
    cases hget
  · split at h
    · cases h
    · exact (Except.error.inj h).symm

/-- The choice of the standard library has a condition and two branches. -/
theorem length_of_choose {name : Text} {args : List Formula} {e : Entry}
    (hentry : Library.standard.checkCount name args.length = .ok e)
    (hchoose : e.behaviour = Function.choose.behaviour) :
    ∃ condition yes no, args = [condition, yes, no] := by
  obtain ⟨F, rfl⟩ := Library.exists_entry_of_find?_standard (find?_of_checkCount hentry)
  have htakes := takes_of_checkCount hentry
  cases F with
  | choose =>
    obtain ⟨hmin, hmax⟩ := htakes
    have hmin : (3 : Int) ≤ args.length := hmin
    have hmax : (args.length : Int) ≤ 3 := hmax 3 rfl
    exact List.length_eq_three.1 (by omega)
  | sum | average | minimum | maximum | count | concat => cases hchoose

/-- An average whose count of operands is not a number has astronomically many operands. -/
theorem pow_le_size_of_uncounted (hreader : ∀ a, (reader.value a).Displayable) {name : Text}
    {args : List Formula} (hlegal : (Formula.call name args).Legal Library.standard.contains)
    {vs : List Value}
    (hvs : List.Forall₂ (fun arg v => evalWithin .standard reader depth arg = .ok v) args vs)
    (hinf : (nearestToInt (Standard.extent vs)).isInf) :
    2 ^ 222 ≤ (Formula.call name args).size := by
  have hshare (v : Value) (hv : v ∈ vs) :
      0 ≤ (Standard.share v).2 ∧ (Standard.share v).2 ≤ 2 ^ 34 := by
    obtain ⟨arg, harg, heval⟩ := exists_of_forall₂ hvs hv
    have harg := hlegal.of_part (.operand harg (.self arg))
    exact (possible_of_evalWithin Library.isStandard_standard hreader depth harg.finiteNumbers
      heval).share_bounds fun r => harg.size_bounds
  obtain ⟨hnonneg, hle⟩ := Standard.extent_bounds hshare
  have hlarge : 2 ^ 256 ≤ Standard.extent vs := by
    by_contra hsmall
    rw [isInf_nearestToInt hnonneg (Int.not_le.1 hsmall)] at hinf
    cases hinf
  have hlength : vs.length ≤ (Formula.call name args).size := by
    rw [← hvs.length_eq]
    exact Nat.le_succ_of_le (Formula.length_le_sizeAll args)
  omega

/-- A legal formula fails as expected, or because an integer arises on the way. -/
theorem fails_of_evalWithin (hreader : ∀ a, (reader.value a).Displayable) (depth : Nat)
    (hf : f.Legal Library.standard.contains)
    (h : evalWithin .standard reader depth f = .error fault) :
    Fails .standard reader depth f fault := by
  cases arises_of_evalWithin Library.isStandard_standard depth h with
  | nested hpart =>
    obtain ⟨k, hk, hsize⟩ := hpart.size_add_le
    have hpos := Formula.size_pos ‹_›
    exact .expected (.nestingTooDeep (by omega))
  | uncalled hpart hcount =>
    cases hf.of_part hpart.contains with
    | call hname _ =>
      rw [eq_of_checkCount_eq_error hname hcount]
      exact .expected (.formula _)
  | unchosen _ hentry hchoose hfew =>
    obtain ⟨condition, yes, no, rfl⟩ := length_of_choose hentry hchoose
    exact absurd hfew (by simp)
  | integer hpart hv => exact .integer hpart hv
  | own | read | failed => exact .expected (.formula _)
  | uncounted hpart hvs hinf =>
    obtain ⟨k, -, hsize⟩ := hpart.size_add_le
    have hlarge := pow_le_size_of_uncounted hreader (hf.of_part hpart.contains) hvs hinf
    exact .expected (.countTooLarge (by omega))
  | notShown hpart hv hw hdisplay =>
    have hnot := (Arises.notShown hpart hv hw hdisplay).not_lacksText Library.isStandard_standard
      hreader hf.finiteNumbers
    exact (hnot (lacksText_of_display_eq_error hdisplay)).elim

/-- What a formula fails with, apart from errors of the language, its evaluation fails with. -/
theorem evalWithin_of_evaluate_eq_error {lang : Language}
    (h : evaluate lang reader f = .error fault) : (∃ e, fault = .formula e) ∨
      evalWithin lang.toLibrary reader lang.limit.depth f = .error fault := by
  rcases bind_eq_error.1 h with heval | ⟨v, -, hv⟩
  · exact .inr heval
  · obtain ⟨e, rfl, -⟩ := eq_of_cellValue_eq_error hv
    exact .inl ⟨e, rfl⟩

end Evaluation

end Spreadsheet
