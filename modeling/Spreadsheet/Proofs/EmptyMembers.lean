import Spreadsheet.Proofs.Library.Filled

/-!
# Empty members left out

The average, the count, the extrema and the joined text are the same whichever empty members of a
range are left out, as long as the range tells for how many addresses it stands
(`empty_members_invisible`). So an average is what the totals of its arguments add up to, over the
number of all operands.
-/

namespace Spreadsheet

/-- A list of values without some of its empty ones, and the whole list. -/
inductive LeavesOut : List CellValue → List CellValue → Prop where
  | nil : LeavesOut [] []
  | keep (v : CellValue) {vs ws : List CellValue} (h : LeavesOut vs ws) :
    LeavesOut (v :: vs) (v :: ws)
  | drop {vs ws : List CellValue} (h : LeavesOut vs ws) : LeavesOut vs (.empty :: ws)

theorem LeavesOut.filled_eq {vs ws : List CellValue} (h : LeavesOut vs ws) :
    filled vs = filled ws := by
  induction h with
  | nil => rfl
  | keep v _ ih =>
    unfold filled at ih ⊢
    rw [List.filter_cons, List.filter_cons, ih]
  | drop _ ih => rw [filled_cons_empty, ih]

namespace Value

/-- An argument, and the same argument with all members: a range may leave out empty members, but
it keeps its size. -/
inductive LeavesOut : Value → Value → Prop where
  | same (v : Value) : LeavesOut v v
  | range {members all : List CellValue} (size : Int) (h : Spreadsheet.LeavesOut members all) :
    LeavesOut (.range members size) (.range all size)

variable {v v' : Value}

theorem LeavesOut.filled_operands (h : v.LeavesOut v') :
    filled v.operands = filled v'.operands := by
  cases h with
  | same => rfl
  | range _ h => exact h.filled_eq

theorem LeavesOut.share_eq (h : v.LeavesOut v') : Standard.share v = Standard.share v' := by
  cases h with
  | same => rfl
  | range size h =>
    rw [Standard.share, Standard.share, ← Standard.total_filled, h.filled_eq, Standard.total_filled]

/-- A bare list of values. No part of a formula evaluates to one. -/
def IsArray : Value → Prop
  | array _ => True
  | scalar _ | range _ _ => False

/-- The number of operands that an argument stands for, empty ones included. -/
def extent : Value → Int
  | range _ size => size
  | scalar _ | array _ => 1

end Value

namespace Standard

/-! ## Averages -/

/-- The number of a value; zero if it has none, or if its number is a zero of either sign. -/
def summand (v : CellValue) : Float :=
  match v.number? with
  | some x => if x == 0 then 0 else x
  | none => 0

/-- The numbers of an argument added up from left to right. -/
def subtotal (arg : Value) : Float :=
  arg.operands.foldl (fun sum v => sum + summand v) 0

/-- The number of operands of a list of arguments, empty ones included. -/
def operandCount (args : List Value) : Int :=
  args.foldl (fun n arg => n + arg.extent) 0

/-- A total over a number of operands; zero if there are none. -/
def quotient (whole : Float) (count : Int) : Outcome :=
  if count = 0 then .ok (.number 0)
  else if (nearestToInt count).isInf then .error .countTooLarge
  else .ok (.number (whole / nearestToInt count))

theorem not_isNegZero_summand (v : CellValue) : ¬ IsNegZero (summand v) := by
  unfold summand
  split
  · split
    · exact not_isNegZero_zero
    · next x _ hx =>
      intro hneg
      refine hx ?_
      show (x.toModel.unpack.compare (.zero .positive) == some .eq) = true
      rw [show x.toModel.unpack = .zero .negative from hneg]
      rfl
  · exact not_isNegZero_zero

/-- A negative zero adds as little as the zero that stands in its place. -/
theorem add_summand {x : Float} (hx : ¬ IsNegZero x) (v : CellValue) :
    x + summand v = x + addend v := by
  unfold summand addend
  cases v.number? with
  | none => rfl
  | some y =>
    by_cases hy : (y == 0) = true
    · rw [Option.getD_some]
      simp only [hy, if_true]
      rw [add_zero_of_not_isNegZero hx, add_of_beq_zero hx hy]
    · simp only [hy, Option.getD_some]
      rfl

theorem foldl_summand (vs : List CellValue) : ∀ {x : Float}, ¬ IsNegZero x →
    vs.foldl (fun sum v => sum + summand v) x = vs.foldl (fun sum v => sum + addend v) x := by
  induction vs with
  | nil =>
    intro x _
    rw [List.foldl_nil, List.foldl_nil]
  | cons v vs ih =>
    intro x hx
    rw [List.foldl_cons, List.foldl_cons, add_summand hx, ih (not_isNegZero_add hx _)]

theorem add_subtotal {x : Float} (hx : ¬ IsNegZero x) {arg : Value} (harg : ¬ arg.IsArray) :
    x + subtotal arg = x + (share arg).1 := by
  cases arg with
  | scalar v =>
    show x + (0 + summand v) = x + addend v
    rw [zero_add_of_not_isNegZero (not_isNegZero_summand v), add_summand hx]
  | range members size =>
    show x + members.foldl (fun sum v => sum + summand v) 0 = x + total members
    rw [foldl_summand members not_isNegZero_zero, total]
  | array => exact (harg trivial).elim

theorem foldl_subtotal (args : List Value) (hargs : ∀ arg ∈ args, ¬ arg.IsArray) :
    ∀ {x : Float}, ¬ IsNegZero x → args.foldl (fun sum arg => sum + subtotal arg) x =
      args.foldl (fun sum arg => sum + (share arg).1) x := by
  induction args with
  | nil =>
    intro x _
    rw [List.foldl_nil, List.foldl_nil]
  | cons arg args ih =>
    intro x hx
    rw [List.forall_mem_cons] at hargs
    rw [List.foldl_cons, List.foldl_cons, add_subtotal hx hargs.1,
      ih hargs.2 (not_isNegZero_add hx _)]

theorem snd_share (arg : Value) : (share arg).2 = arg.extent := by
  cases arg <;> rfl

/-- An average is the total of the totals of its arguments, over the number of their operands. -/
theorem average_eq_quotient {args : List Value} (hargs : ∀ arg ∈ args, ¬ arg.IsArray) :
    average args =
      quotient (args.foldl (fun sum arg => sum + subtotal arg) 0) (operandCount args) := by
  unfold average quotient operandCount
  simp only [snd_share]
  rw [foldl_subtotal args hargs not_isNegZero_zero]

theorem operandCount_eq_length {args : List Value} (hargs : ∀ arg ∈ args, ¬ arg.IsArray)
    (hsize : ∀ members size, .range members size ∈ args → size = members.length) :
    operandCount args = (flatten args).length := by
  have hextent : ∀ arg ∈ args, arg.extent = arg.operands.length := by
    intro arg harg
    cases arg with
    | scalar => rfl
    | range members size => exact hsize members size harg
    | array => exact (hargs _ harg trivial).elim
  clear hargs hsize
  have hfold : ∀ n : Int, args.foldl (fun n arg => n + arg.extent) n =
      n + (flatten args).length := by
    induction args with
    | nil => exact fun n => (Int.add_zero n).symm
    | cons arg args ih =>
      intro n
      rw [List.forall_mem_cons] at hextent
      have hlength : (flatten (arg :: args)).length =
          arg.operands.length + (flatten args).length := List.length_append
      rw [List.foldl_cons, ih hextent.2, hextent.1, hlength]
      omega
  rw [operandCount, hfold, Int.zero_add]

/-- Whichever empty members its ranges leave out, an average, a count, an extremum and a joined text
come out the same, faults included. An average is the total of all arguments over the number of
their operands, which is the number of all members listed if nothing is left out. -/
theorem empty_members_invisible {sparse full : List Value}
    (h : List.Forall₂ Value.LeavesOut sparse full) :
    average sparse = average full ∧ count sparse = count full ∧ minimum sparse = minimum full ∧
      maximum sparse = maximum full ∧ concat sparse = concat full ∧
      ((∀ arg ∈ full, ¬ arg.IsArray) →
        average sparse =
          quotient (full.foldl (fun sum arg => sum + subtotal arg) 0) (operandCount full) ∧
        ((∀ members size, .range members size ∈ full → size = members.length) →
          operandCount full = (flatten full).length)) := by
  have haverage : average sparse = average full :=
    average_of_shares (h.imp fun _ _ hv => hv.share_eq)
  have hfilled : filled (flatten sparse) = filled (flatten full) :=
    filled_flatten (h.imp fun _ _ hv => hv.filled_operands)
  refine ⟨haverage, count_of_filled hfilled, minimum_of_filled hfilled, maximum_of_filled hfilled,
    concat_of_filled hfilled, fun hargs => ⟨?_, operandCount_eq_length hargs⟩⟩
  rw [haverage, average_eq_quotient hargs]

/-- A range of four addresses, two of them empty, and a number. -/
def halfEmpty : List Value :=
  [.range [.empty, .text "3", .empty, .number 1] 4, .number 1]

/-- The same arguments as a sparse read gives them. -/
def halfEmptySparse : List Value :=
  [.range [.text "3", .number 1] 4, .number 1]

theorem empty_members_invisible_halfEmpty :
    List.Forall₂ Value.LeavesOut halfEmptySparse halfEmpty ∧
      (∀ arg ∈ halfEmpty, ¬ arg.IsArray) ∧
      (∀ members size, .range members size ∈ halfEmpty → size = members.length) ∧
      average halfEmptySparse = .ok (.number 1) ∧ operandCount halfEmpty = 5 ∧
      count halfEmptySparse = count halfEmpty := by
  have hleaves : List.Forall₂ Value.LeavesOut halfEmptySparse halfEmpty :=
    .cons (.range 4 (.drop (.keep _ (.drop (.keep _ .nil))))) (.cons (.same _) .nil)
  have hargs : ∀ arg ∈ halfEmpty, ¬ arg.IsArray := by
    simp [halfEmpty, Value.IsArray, Value.number]
  have hsize : ∀ members size, .range members size ∈ halfEmpty → size = members.length := by
    simp [halfEmpty, Value.number]
  obtain ⟨haverage, hcount, -, -, -, hquotient⟩ := empty_members_invisible hleaves
  have hone : average halfEmpty = .ok (.number 1) := by decide +kernel
  exact ⟨hleaves, hargs, hsize, haverage.trans hone, (hquotient hargs).2 hsize, hcount⟩

end Standard

end Spreadsheet
