import Spreadsheet.Grid
import Spreadsheet.Proofs.Fallible
import Spreadsheet.Proofs.Formula.Reads
import Spreadsheet.Value.Display

/-!
# What a formula evaluates to

The value of a formula depends only on what its leaves refer to (`evaluate_congr`), so on two grids
it is the same if they agree on every address that the formula reads (`Grid.evaluate_congr`). The
lazy functions that the formula calls have to keep to their arguments for that: one that evaluates
other formulas reads what no leaf mentions. Every value that a formula evaluates to has a text
(`displayable_of_evaluate`).
-/

namespace Spreadsheet

namespace CellReader

variable {reader reader' : CellReader}

/-- Two readers agree on a reference: on the value of a cell, or on the members of a range and
their values. -/
def Agree (reader reader' : CellReader) : Reference → Prop
  | .cell a => reader.value a = reader'.value a
  | .range r => reader.members r = reader'.members r ∧
      ∀ a ∈ reader.members r, reader.value a = reader'.value a

theorem Agree.read_eq {a : Address} (h : Agree reader reader' (.cell a)) :
    reader.read a = reader'.read a := by
  have hvalue : reader.value a = reader'.value a := h
  rw [read, read, hvalue]

theorem Agree.readRange_eq {r : CellRange} (h : Agree reader reader' (.range r)) :
    reader.readRange r = reader'.readRange r := by
  obtain ⟨hmembers, hvalue⟩ := h
  have hread : (reader.members r).mapM reader.read = (reader.members r).mapM reader'.read :=
    mapM_congr fun a ha => Agree.read_eq (hvalue a ha)
  rw [readRange, readRange, hread, hmembers]

end CellReader

/-! ## Functions that keep to their arguments -/

/-- A function evaluates nothing but parts of its arguments: whatever else could be evaluated makes
no difference to its result. An eager function is not given anything to evaluate. -/
def Behaviour.KeepsToArguments : Behaviour → Prop
  | eager _ => True
  | lazy result => ∀ (args : List Formula) (evaluate evaluate' : Formula → Outcome),
    (∀ arg ∈ args, ∀ g, arg.Contains g → evaluate g = evaluate' g) →
      result args evaluate = result args evaluate'

/-- Every function of a library keeps to its arguments. -/
def Library.KeepsToArguments (lib : Library) : Prop :=
  ∀ name e, lib.find? name = some e → e.behaviour.KeepsToArguments

/-- Every function that a formula calls keeps to its arguments. -/
def Formula.KeepsToArguments (lib : Library) (f : Formula) : Prop :=
  ∀ name args e, f.Contains (.call name args) → lib.find? name = some e →
    e.behaviour.KeepsToArguments

theorem Library.KeepsToArguments.formula {lib : Library} (h : lib.KeepsToArguments) (f : Formula) :
    f.KeepsToArguments lib :=
  fun name _ e _ he => h name e he

theorem Formula.KeepsToArguments.of_part {lib : Library} {f g : Formula}
    (h : f.KeepsToArguments lib) (hpart : f.Contains g) : g.KeepsToArguments lib :=
  fun name args e hcall he => h name args e (hpart.trans hcall) he

theorem Formula.keepsToArguments_ref {lib : Library} (a : Address) :
    (ref a).KeepsToArguments lib :=
  fun _ _ _ hpart => nomatch hpart

theorem find?_of_checkCount {lib : Library} {name : Text} {count : Int} {e : Entry}
    (h : lib.checkCount name count = .ok e) : lib.find? name = some e := by
  obtain ⟨e', hget, h⟩ := bind_eq_ok.1 h
  unfold Library.get at hget
  split at h
  · cases h
    split at hget
    · next hfind =>
      cases hget
      exact hfind
    · cases hget
  · cases h

theorem applyCall_congr {lib : Library} {name : Text} {args : List Formula}
    {evaluate evaluate' : Formula → Outcome}
    (hkeeps : ∀ e, lib.find? name = some e → e.behaviour.KeepsToArguments)
    (h : ∀ arg ∈ args, ∀ g, arg.Contains g → evaluate g = evaluate' g) :
    applyCall lib name args evaluate = applyCall lib name args evaluate' := by
  unfold applyCall
  cases hentry : lib.checkCount name args.length with
  | error f => rfl
  | ok e =>
    have he := hkeeps e (find?_of_checkCount hentry)
    cases hbehaviour : e.behaviour with
    | lazy result =>
      rw [hbehaviour] at he
      simpa [bind, Except.bind, hbehaviour] using he args evaluate evaluate' h
    | eager result =>
      have hoperands : args.mapM evaluate = args.mapM evaluate' :=
        mapM_congr fun arg harg => h arg harg arg (.self arg)
      simp only [bind, Except.bind, hbehaviour, hoperands]

/-! ## Evaluation reads only leaves -/

section Congr

variable {lib : Library} {lang : Language} {reader reader' : CellReader}

theorem evalWithin_congr (depth : Nat) : ∀ {f : Formula}, f.KeepsToArguments lib →
    (∀ x ∈ f.leaves, reader.Agree reader' x) →
      evalWithin lib reader depth f = evalWithin lib reader' depth f := by
  induction depth with
  | zero => exact fun _ _ => rfl
  | succ depth ih =>
    intro f hkeeps h
    cases f with
    | ref a =>
      have ha : reader.Agree reader' (.cell a) := h _ (by simp [Formula.leaves])
      simp only [evalWithin, ha.read_eq]
    | range r =>
      have hr : reader.Agree reader' (.range r) := h _ (by simp [Formula.leaves])
      simp only [evalWithin, hr.readRange_eq]
    | call name args =>
      -- a lazy function may evaluate any part of an argument, not only the arguments
      refine applyCall_congr (fun e he => hkeeps name args e (.self _) he) fun arg harg g hg => ?_
      have hpart : (Formula.call name args).Contains g := .operand harg hg
      exact ih (hkeeps.of_part hpart) fun x hx => h x (hpart.mem_leaves hx)
    | unary symbol operand =>
      have hoperand := ih (hkeeps.of_part (.unary (.self operand))) h
      simp only [evalWithin, hoperand]
    | binary symbol left right =>
      have hleft := ih (hkeeps.of_part (.left (.self left))) fun x hx =>
        h x (List.mem_append_left _ hx)
      have hright := ih (hkeeps.of_part (.right (.self right))) fun x hx =>
        h x (List.mem_append_right _ hx)
      simp only [evalWithin, hleft, hright]
    | number | text | failed | unknown => rfl

theorem evaluate_congr {f : Formula} (hkeeps : f.KeepsToArguments lang.toLibrary)
    (h : ∀ x ∈ f.leaves, reader.Agree reader' x) :
    evaluate lang reader f = evaluate lang reader' f := by
  rw [evaluate, evaluate, eval, eval, evalWithin_congr _ hkeeps h]

end Congr

/-- Grids that agree on what a formula reads agree on every reference in it. -/
theorem Grid.agree_reader {g g' : Grid} {f : Formula}
    (hmem : ∀ a, f.reads.Cover a → (a ∈ g.cells ↔ a ∈ g'.cells))
    (hvalue : ∀ a, f.reads.Cover a → g.value a = g'.value a) {x : Reference} (hx : x ∈ f.leaves) :
    g.reader.Agree g'.reader x := by
  cases x with
  | cell a => exact hvalue a (Formula.cover_reads_iff.2 (.inl hx))
  | range r =>
    have hcover {a : Address} (ha : r.Covers a) : f.reads.Cover a :=
      Formula.cover_reads_iff.2 (.inr ⟨r, hx, ha⟩)
    refine ⟨populatedMembers_congr fun a ha => hmem a (hcover ha), fun a ha => ?_⟩
    exact hvalue a (hcover (mem_populatedMembers_iff.1 ha).1)

/-- Grids that agree on what a formula reads give it the same value. -/
theorem Grid.evaluate_congr {lang : Language} {g g' : Grid} {f : Formula}
    (hkeeps : f.KeepsToArguments lang.toLibrary)
    (hmem : ∀ a, f.reads.Cover a → (a ∈ g.cells ↔ a ∈ g'.cells))
    (hvalue : ∀ a, f.reads.Cover a → g.value a = g'.value a) :
    evaluate lang g.reader f = evaluate lang g'.reader f :=
  Spreadsheet.evaluate_congr hkeeps fun _ hx => agree_reader hmem hvalue hx

/-! ## Values have a text -/

theorem numberText?_of_isFinite {x : Float} (h : x.isFinite = true) :
    ∃ t, numberText? x = some t := by
  have hunpack : x.toModel.unpack.isFinite = true := h
  unfold numberText?
  generalize x.toModel.unpack = u at hunpack
  cases u with
  | notANumber => exact absurd hunpack (by decide)
  | infinity => exact absurd hunpack Bool.false_ne_true
  | zero => exact ⟨_, rfl⟩
  | finite sign => cases sign <;> exact ⟨_, rfl⟩

namespace CellValue

/-- A value that a cell can show. -/
def Displayable (v : CellValue) : Prop :=
  ∃ shown, v.display = .ok shown

/-- The text that a value shows; a value that has none shows nothing. -/
def shown (v : CellValue) : Text :=
  match v.display with
  | .ok shown => shown
  | .error _ => ""

theorem Displayable.display_eq {v : CellValue} (h : v.Displayable) : v.display = .ok v.shown := by
  obtain ⟨shown, hshown⟩ := h
  rw [CellValue.shown, hshown]

theorem displayable_number {x : Float} (h : x.isFinite = true) : (number x).Displayable := by
  obtain ⟨t, ht⟩ := numberText?_of_isFinite h
  exact ⟨t, by rw [display, ht]⟩

theorem isFinite_of_displayable {x : Float} (h : (number x).Displayable) : x.isFinite := by
  obtain ⟨t, ht⟩ := h
  unfold display numberText? at ht
  show x.toModel.unpack.isFinite = true
  cases hunpack : x.toModel.unpack with
  | notANumber | infinity => simp [hunpack] at ht
  | zero | finite => rfl

theorem displayable_error (code : ErrorCode) : (error code).Displayable :=
  ⟨code.token, rfl⟩

/-- A value is not an infinite or undefined number. -/
def IsFinite : CellValue → Prop
  | .number x => x.isFinite
  | .empty | .integer _ | .text _ | .error _ => True

theorem isFinite_iff {v : CellValue} : v.IsFinite ↔ v.Displayable := by
  cases v with
  | number x => exact ⟨displayable_number, isFinite_of_displayable⟩
  | error code => exact iff_of_true trivial (displayable_error code)
  | empty | integer | text => exact iff_of_true trivial ⟨_, rfl⟩

end CellValue

theorem isFinite_of_finite {x y : Float} (h : finite x = .ok y) : y.isFinite = true := by
  unfold finite at h
  split at h
  · next hx =>
    rw [Except.ok.injEq] at h
    exact h ▸ hx
  · simp at h

theorem displayable_of_cellValue {v : Value} {w : CellValue} (h : cellValue v = .ok w) :
    w.Displayable := by
  unfold cellValue at h
  split at h
  · rw [Except.ok.injEq] at h
    subst h
    exact CellValue.displayable_number (by decide)
  · next x =>
    obtain ⟨y, hy, hw⟩ := bind_eq_ok.1 h
    cases hw
    exact CellValue.displayable_number (isFinite_of_finite hy)
  · next v hempty hnumber =>
    rw [Except.ok.injEq] at h
    subst h
    cases v with
    | empty => exact (hempty rfl).elim
    | number x => exact (hnumber x rfl).elim
    | integer n => exact ⟨_, rfl⟩
    | text t => exact ⟨t, rfl⟩
    | error code => exact CellValue.displayable_error code
  · simp at h

/-- Whatever a formula evaluates to can be shown. -/
theorem displayable_of_evaluate {lang : Language} {reader : CellReader} {f : Formula}
    {v : CellValue} (h : evaluate lang reader f = .ok v) : v.Displayable := by
  obtain ⟨w, -, hw⟩ := bind_eq_ok.1 h
  exact displayable_of_cellValue hw

end Spreadsheet
