import Spreadsheet.Proofs.Library.Calls
import Spreadsheet.Proofs.Library.Results
import Spreadsheet.Proofs.Number.Magnitude

/-!
# Values of formulas

A formula whose numbers are finite, and that reads only finite numbers, evaluates to a finite
number, a text, what one of its leaves reads, or the integer zero of a sum of no values that is
evaluated on the way (`possible_of_evalWithin`).
-/

namespace Spreadsheet

open Standard (Function)

/-- The numbers that are written in a formula are finite. -/
inductive Formula.FiniteNumbers : Formula → Prop
  | number {x : Float} (h : x.isFinite) : FiniteNumbers (.number x)
  | text (t : Text) : FiniteNumbers (.text t)
  | ref (a : Address) : FiniteNumbers (.ref a)
  | range (r : CellRange) : FiniteNumbers (.range r)
  | call (name : Text) {args : List Formula} (h : ∀ arg ∈ args, FiniteNumbers arg) :
    FiniteNumbers (.call name args)
  | unary (symbol : Text) {operand : Formula} (h : FiniteNumbers operand) :
    FiniteNumbers (.unary symbol operand)
  | binary (symbol : Text) {left right : Formula} (hl : FiniteNumbers left)
    (hr : FiniteNumbers right) : FiniteNumbers (.binary symbol left right)
  | failed (code : ErrorCode) (message : Text) : FiniteNumbers (.failed code message)
  | unknown : FiniteNumbers .unknown

/-- A call of the sum that evaluates to the integer zero. -/
structure SumsNothing (lib : Library) (reader : CellReader) (depth : Nat) (f : Formula) :
    Prop where
  isSum : ∃ name args e, f = .call name args ∧ lib.find? name = some e ∧
    e.behaviour = Function.sum.behaviour
  value : evalWithin lib reader depth f = .ok (.scalar (.integer 0))

/-- The values that a formula can have, by what they come from. -/
inductive Possible (lib : Library) (reader : CellReader) (depth : Nat) (f : Formula) :
    Value → Prop
  | number {x : Float} (h : x.isFinite) : Possible lib reader depth f (.number x)
  | text (t : Text) : Possible lib reader depth f (.scalar (.text t))
  | integer {n : Nat} {g : Formula} (h : Evaluates lib reader depth f n g)
    (hsum : SumsNothing lib reader n g) : Possible lib reader depth f (.scalar (.integer 0))
  | cell {a : Address} {v : CellValue} (ha : .cell a ∈ f.leaves) (h : reader.read a = .ok v) :
    Possible lib reader depth f (.scalar v)
  | range {r : CellRange} {members : List CellValue} (hr : .range r ∈ f.leaves)
    (h : (reader.members r).mapM reader.read = .ok members) :
    Possible lib reader depth f (.range members r.size)

/-! ## Operators -/

theorem isFinite_of_readNumber {t : Text} {x : Float} (h : readNumber t = some x) :
    x.isFinite :=
  (Option.filter_eq_some_iff.1 h).2

theorem isFinite_of_toNumber {v : Value} {x : Float} (hv : ∀ w ∈ v.operands, w.Displayable)
    (h : v.toNumber = .ok x) : x.isFinite := by
  unfold Value.toNumber at h
  split at h
  · cases h
    decide
  · cases h
    exact CellValue.isFinite_of_displayable (hv _ (List.mem_singleton.2 rfl))
  · cases h
  · split at h
    · cases h
      decide
    · split at h
      · next hread =>
        cases h
        exact isFinite_of_readNumber hread
      · cases h
  · cases h
  · cases h

theorem isFinite_of_applyUnary {symbol : Text} {v w : Value}
    (hv : ∀ u ∈ v.operands, u.Displayable) (h : applyUnary symbol v = .ok w) :
    ∃ x : Float, x.isFinite ∧ w = .number x := by
  obtain ⟨x, hx, h⟩ := bind_eq_ok.1 h
  have hfinite := isFinite_of_toNumber hv hx
  cases h
  refine ⟨_, ?_, rfl⟩
  split
  · exact isFinite_neg hfinite
  · exact hfinite

theorem Arithmetic.isFinite_of_apply {op : Arithmetic} {x y z : Float}
    (h : op.apply x y = .ok z) : z.isFinite := by
  cases op with
  | add | sub | mul => exact isFinite_of_finite h
  | div =>
    unfold apply at h
    dsimp only at h
    split at h
    · cases h
    · exact isFinite_of_finite h

theorem isFinite_truthNumber (b : Bool) : (truthNumber b).isFinite := by
  cases b <;> decide

theorem isFinite_of_compareBy {symbol : Text} {v w : Value} {x : Float}
    (h : v.compareBy symbol w = .ok x) : x.isFinite := by
  unfold Value.compareBy at h
  split at h
  · unfold CellValue.compareBy at h
    split at h
    · split at h
      · cases h
        decide
      · cases h
        decide
      · cases h
    · split at h
      · cases h
        exact isFinite_truthNumber _
      · cases h
  · cases h

theorem isFinite_of_applyBinary {symbol : Text} {v w u : Value}
    (h : applyBinary symbol v w = .ok u) : ∃ x : Float, x.isFinite ∧ u = .number x := by
  unfold applyBinary at h
  split at h
  · obtain ⟨x, -, h⟩ := bind_eq_ok.1 h
    obtain ⟨y, -, h⟩ := bind_eq_ok.1 h
    obtain ⟨z, hz, h⟩ := bind_eq_ok.1 h
    cases h
    exact ⟨z, Arithmetic.isFinite_of_apply hz, rfl⟩
  · obtain ⟨z, hz, h⟩ := bind_eq_ok.1 h
    cases h
    exact ⟨z, isFinite_of_compareBy hz, rfl⟩

/-! ## Formulas -/

section Evaluation

variable {lib : Library} {lang : Language} {reader : CellReader} {depth : Nat} {f : Formula}
  {v : Value}

theorem Possible.of_part {n : Nat} {g : Formula} (hpart : Evaluates lib reader depth f n g)
    (h : Possible lib reader n g v) : Possible lib reader depth f v := by
  cases h with
  | number hx => exact .number hx
  | text t => exact .text t
  | integer hg hsum => exact .integer (hpart.trans hg) hsum
  | cell ha hread => exact .cell (hpart.mem_leaves ha) hread
  | range hr hread => exact .range (hpart.mem_leaves hr) hread

theorem eq_of_read_eq_ok {a : Address} {w : CellValue} (h : reader.read a = .ok w) :
    reader.value a = w ∧ ∀ code, w ≠ .error code := by
  unfold CellReader.read at h
  split at h
  · cases h
  · next hvalue =>
    cases h
    exact ⟨rfl, fun code hcode => hvalue code hcode⟩

theorem exists_members_of_readRange {r : CellRange} (h : reader.readRange r = .ok v) :
    ∃ members, (reader.members r).mapM reader.read = .ok members ∧ v = .range members r.size := by
  unfold CellReader.readRange at h
  split at h
  · cases h
  · next members hmembers =>
    cases h
    exact ⟨members, hmembers, rfl⟩

theorem CellReader.displayable_of_read (hreader : ∀ a, (reader.value a).Displayable) {a : Address}
    {v : CellValue} (h : reader.read a = .ok v) : v.Displayable := by
  rw [← (eq_of_read_eq_ok h).1]
  exact hreader a

theorem Possible.displayable (hreader : ∀ a, (reader.value a).Displayable)
    (h : Possible lib reader depth f v) : ∀ w ∈ v.operands, w.Displayable := by
  cases h with
  | number hx => exact List.forall_mem_singleton.2 (CellValue.displayable_number hx)
  | text t => exact List.forall_mem_singleton.2 ⟨t, rfl⟩
  | integer => exact List.forall_mem_singleton.2 ⟨_, rfl⟩
  | cell _ hread => exact List.forall_mem_singleton.2 (CellReader.displayable_of_read hreader hread)
  | range _ hread =>
    intro w hw
    obtain ⟨a, -, ha⟩ := exists_of_forall₂ (mapM_eq_ok_iff.1 hread) hw
    exact CellReader.displayable_of_read hreader ha

theorem possible_of_eager {name : Text} {args : List Formula} {e : Entry} {F : Function}
    {result : List Value → Outcome} (hentry : lib.checkCount name args.length = .ok e)
    (hF : e.behaviour = F.behaviour) (hresult : F.behaviour = .eager result)
    (h : evalWithin lib reader (depth + 1) (.call name args) = .ok v) :
    Possible lib reader (depth + 1) (.call name args) v := by
  have heval := h
  rw [evalWithin_eager hentry (hF.trans hresult)] at h
  obtain ⟨vs, -, h⟩ := bind_eq_ok.1 h
  rcases (Standard.gives_of_eager hresult vs).finiteOutcome_eq_ok h with
    ⟨x, hx, rfl⟩ | ⟨t, rfl⟩ | ⟨rfl, rfl⟩
  · exact .number hx
  · exact .text t
  · exact .integer (.self _ _) ⟨⟨name, args, e, rfl, find?_of_checkCount hentry, hF⟩, heval⟩

/-- A choice that succeeds has the value of a branch. -/
theorem exists_branch_of_choose {name : Text} {args : List Formula} {e : Entry}
    (hentry : lib.checkCount name args.length = .ok e)
    (hchoose : e.behaviour = Function.choose.behaviour)
    (h : evalWithin lib reader (depth + 1) (.call name args) = .ok v) : ∃ branch ∈ args,
      Evaluates lib reader (depth + 1) (.call name args) depth branch ∧
        evalWithin lib reader depth branch = .ok v := by
  rw [evalWithin_choose hentry hchoose] at h
  cases args with
  | nil => cases h
  | cons condition branches =>
    rw [choose_cons] at h
    obtain ⟨w, hw, h⟩ := bind_eq_ok.1 h
    obtain ⟨holds, hholds, h⟩ := bind_eq_ok.1 h
    cases hbranch : branches[if holds then 0 else 1]? with
    | none =>
      rw [hbranch] at h
      cases h
    | some branch =>
      rw [hbranch] at h
      exact ⟨branch, List.mem_cons_of_mem _ (List.mem_of_getElem? hbranch),
        .branch hentry hchoose hw hholds hbranch (.self _ _), h⟩

/-- Whatever a formula evaluates to is one of its possible values. -/
theorem possible_of_evalWithin (hlib : lib.IsStandard)
    (hreader : ∀ a, (reader.value a).Displayable) (depth : Nat) : ∀ {f : Formula} {v : Value},
      f.FiniteNumbers → evalWithin lib reader depth f = .ok v → Possible lib reader depth f v := by
  induction depth with
  | zero => exact fun _ h => by cases h
  | succ depth ih =>
    intro f v hf h
    cases hf with
    | number hx =>
      cases h
      exact .number hx
    | text t =>
      cases h
      exact .text t
    | ref a =>
      obtain ⟨w, hw, h⟩ := bind_eq_ok.1 h
      cases h
      exact .cell (by simp [Formula.leaves]) hw
    | range r =>
      obtain ⟨members, hmembers, rfl⟩ := exists_members_of_readRange h
      exact .range (by simp [Formula.leaves]) hmembers
    | @call name args hargs =>
      obtain ⟨e, hentry, -⟩ := bind_eq_ok.1 h
      rcases hlib.eager_or_choose hentry with ⟨F, result, hF, hresult⟩ | hchoose
      · exact possible_of_eager hentry hF hresult h
      · obtain ⟨branch, hmem, hpart, hbranch⟩ := exists_branch_of_choose hentry hchoose h
        exact (ih (hargs branch hmem) hbranch).of_part hpart
    | unary symbol hoperand =>
      obtain ⟨w, hw, h⟩ := bind_eq_ok.1 h
      obtain ⟨x, hx, rfl⟩ := isFinite_of_applyUnary ((ih hoperand hw).displayable hreader) h
      exact .number hx
    | binary symbol hl hr =>
      obtain ⟨w, -, h⟩ := bind_eq_ok.1 h
      obtain ⟨u, -, h⟩ := bind_eq_ok.1 h
      obtain ⟨x, hx, rfl⟩ := isFinite_of_applyBinary h
      exact .number hx
    | failed code message => cases h
    | unknown => cases h

theorem eq_of_cellValue_eq_ok {w : CellValue} (h : cellValue v = .ok w) :
    v = .scalar w ∨ w = .number 0 := by
  unfold cellValue at h
  split at h
  · cases h
    exact .inr rfl
  · obtain ⟨y, hy, h⟩ := bind_eq_ok.1 h
    unfold finite at hy
    split at hy
    · cases hy
      cases h
      exact .inl rfl
    · cases hy
  · cases h
    exact .inl rfl
  · cases h

/-- What a cell holds for a formula is a possible value of the formula. -/
theorem possible_of_evaluate (hlib : lang.IsStandard)
    (hreader : ∀ a, (reader.value a).Displayable) (hf : f.FiniteNumbers) {w : CellValue}
    (h : evaluate lang reader f = .ok w) :
    Possible lang.toLibrary reader lang.limit.depth f (.scalar w) := by
  obtain ⟨v, hv, hw⟩ := bind_eq_ok.1 h
  rcases eq_of_cellValue_eq_ok hw with rfl | rfl
  · exact possible_of_evalWithin hlib hreader _ hf hv
  · exact .number (by decide)

theorem Formula.FiniteNumbers.of_part {g : Formula} (hf : f.FiniteNumbers)
    (hpart : f.Contains g) : g.FiniteNumbers := by
  induction hpart with
  | self => exact hf
  | operand harg _ ih =>
    cases hf with
    | call _ h => exact ih (h _ harg)
  | unary _ ih =>
    cases hf with
    | unary _ h => exact ih h
  | left _ ih =>
    cases hf with
    | binary _ hl _ => exact ih hl
  | right _ ih =>
    cases hf with
    | binary _ _ hr => exact ih hr

/-- An integer that arises on the way comes from a sum of no values or from a cell that holds it. -/
theorem exists_source_of_integer (hlib : lib.IsStandard)
    (hreader : ∀ a, (reader.value a).Displayable) (hf : f.FiniteNumbers) {n : Nat} {g : Formula}
    {z : ShortInt} (hpart : Evaluates lib reader depth f n g)
    (h : evalWithin lib reader n g = .ok (.scalar (.integer z))) :
    (∃ m h, Evaluates lib reader depth f m h ∧ SumsNothing lib reader m h) ∨
      ∃ a, .cell a ∈ f.leaves ∧ reader.value a = .integer z := by
  cases (possible_of_evalWithin hlib hreader n (hf.of_part hpart.contains) h).of_part hpart with
  | integer hg hsum => exact .inl ⟨_, _, hg, hsum⟩
  | cell ha hread => exact .inr ⟨_, ha, (eq_of_read_eq_ok hread).1⟩

end Evaluation

end Spreadsheet
