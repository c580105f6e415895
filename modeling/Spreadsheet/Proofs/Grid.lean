import Mathlib.Logic.Relation
import Mathlib.Tactic.MkIffOfInductiveProp
import Spreadsheet.Proofs.Evaluation

/-!
# What the contents of a grid call for

`Grid.Paired` says that the populated cells are those that have a content. `Grid.Reads` relates a
cell to every cell that its formula reads, and `Grid.OnCycle` says that a cell reads itself,
directly or through others. `Grid.computed` is the value that the content of a cell calls for when
the values around it are taken as they are. A cell is `Settled` if it holds that value, or the cycle
error if it lies on a cycle; whether it is depends only on what can be reached by reading
(`settled_congr`). A formula with a lazy function that does not keep to its arguments can see more
than what it reads, so of such a cell nothing is said unless it lies on a cycle.
-/

namespace Spreadsheet

open Relation
open Std (ExtTreeMap)

namespace Grid

variable {g g' : Grid} {lang : Language} {a b : Address}

/-! ## Operations -/

/-- The content of a cell. -/
def content? (g : Grid) (a : Address) : Option Content :=
  g.contents[a]?

/-- All that a grid holds at an address. -/
def pair? (g : Grid) (a : Address) : Option Cell × Option Content :=
  (g.cells[a]?, g.content? a)

/-- The populated cells are those that have a content. -/
def Paired (g : Grid) : Prop :=
  ∀ a, a ∈ g.cells ↔ a ∈ g.contents

theorem paired_empty : Paired empty :=
  fun _ => iff_of_false ExtTreeMap.not_mem_empty ExtTreeMap.not_mem_empty

theorem Paired.mem_iff (h : g.Paired) : a ∈ g.cells ↔ (g.content? a).isSome := by
  rw [h, content?, ExtTreeMap.mem_iff_isSome_getElem?]

theorem Paired.content?_eq_none (h : g.Paired) (ha : a ∉ g.cells) : g.content? a = none :=
  Option.not_isSome_iff_eq_none.1 fun hsome => ha (h.mem_iff.2 hsome)

theorem Paired.mem_congr (h : g.Paired) (h' : g'.Paired) (hcontent : g.content? a = g'.content? a) :
    a ∈ g.cells ↔ a ∈ g'.cells := by
  rw [h.mem_iff, h'.mem_iff, hcontent]

theorem content?_congr (h : g.pair? a = g'.pair? a) : g.content? a = g'.content? a :=
  congrArg Prod.snd h

theorem value_congr (h : g.pair? a = g'.pair? a) : g.value a = g'.value a := by
  have hcell : g.cells[a]? = g'.cells[a]? := congrArg Prod.fst h
  rw [value, value, hcell]

theorem value_eq_empty (h : a ∉ g.cells) : g.value a = .empty := by
  rw [value, ExtTreeMap.getElem?_eq_none h]

theorem getElem?_change (f : Cell → Cell) :
    (g.change a f).cells[b]? = if b = a then g.cells[b]?.map f else g.cells[b]? := by
  unfold change
  by_cases hb : b = a
  · subst hb
    split <;> simp [*]
  · split <;> simp [ExtTreeMap.getElem?_insert, Ne.symm hb, hb]

@[simp]
theorem contents_change (f : Cell → Cell) : (g.change a f).contents = g.contents := by
  unfold change
  split <;> rfl

theorem mem_change (f : Cell → Cell) : b ∈ (g.change a f).cells ↔ b ∈ g.cells := by
  rw [ExtTreeMap.mem_iff_isSome_getElem?, getElem?_change, ExtTreeMap.mem_iff_isSome_getElem?]
  split
  · rw [Option.isSome_map]
  · rfl

theorem content?_setValue (v : CellValue) : (g.setValue a v).content? b = g.content? b := by
  rw [content?, setValue, contents_change, content?]

theorem value_setValue (v : CellValue) :
    (g.setValue a v).value b = if b = a ∧ a ∈ g.cells then v else g.value b := by
  rw [value, setValue, getElem?_change]
  by_cases hb : b = a
  · subst hb
    rcases hg : g.cells[b]? with _ | c
    · have hb : b ∉ g.cells := by rw [ExtTreeMap.mem_iff_isSome_getElem?, hg]; simp
      simp [hb, value_eq_empty hb]
    · have hb : b ∈ g.cells := by rw [ExtTreeMap.mem_iff_isSome_getElem?, hg]; rfl
      simp [hb]
  · simp [hb, value]

theorem pair?_put (raw : Text) (content : Content) :
    (g.put a raw content).pair? b =
      if b = a then
        (some ⟨raw, g.value a, (g.cells[a]?.map Cell.style).getD .plain⟩, some content)
      else g.pair? b := by
  unfold pair? content? put value
  by_cases hb : b = a
  · subst hb
    cases g.cells[b]? <;> simp
  · simp [ExtTreeMap.getElem?_insert, Ne.symm hb, hb]

theorem pair?_erase : (g.erase a).pair? b = if b = a then (none, none) else g.pair? b := by
  unfold pair? content? erase
  by_cases hb : b = a
  · simp [hb]
  · simp [ExtTreeMap.getElem?_erase, Ne.symm hb, hb]

theorem paired_iff : g.Paired ↔ ∀ a, (g.pair? a).1.isSome = (g.pair? a).2.isSome := by
  refine forall_congr' fun a => ?_
  rw [ExtTreeMap.mem_iff_isSome_getElem?, ExtTreeMap.mem_iff_isSome_getElem?, ← Bool.eq_iff_iff]
  rfl

theorem Paired.put (h : g.Paired) (a : Address) (raw : Text) (content : Content) :
    (g.put a raw content).Paired := by
  rw [paired_iff] at h ⊢
  intro b
  rw [pair?_put]
  split
  · rfl
  · exact h b

theorem Paired.erase (h : g.Paired) (a : Address) : (g.erase a).Paired := by
  rw [paired_iff] at h ⊢
  intro b
  rw [pair?_erase]
  split
  · rfl
  · exact h b

/-! ## Reading -/

/-- What a cell reads. -/
def reads (g : Grid) (a : Address) : References :=
  match g.content? a with
  | some content => content.reads
  | none => .empty

/-- A cell reads another one, by itself or in a range. -/
def Reads (g : Grid) (a b : Address) : Prop :=
  (g.reads a).Cover b

/-- A cell lies on a cycle: it reads itself, directly or through others. -/
def OnCycle (g : Grid) (a : Address) : Prop :=
  TransGen g.Reads a a

theorem Paired.mem_of_reads (hg : g.Paired) (h : g.Reads a b) : a ∈ g.cells := by
  unfold Reads reads at h
  split at h
  · next hcontent => exact hg.mem_iff.2 (by simp [hcontent])
  · exact (References.not_cover_empty b h).elim

theorem Paired.mem_of_onCycle (hg : g.Paired) (h : g.OnCycle a) : a ∈ g.cells := by
  obtain ⟨b, hread, -⟩ := TransGen.head'_iff.1 h
  exact hg.mem_of_reads hread

theorem reads_eq_of_formula {f : Formula} (h : g.content? a = some (.formula f)) :
    g.reads a = f.reads := by
  rw [reads, h]
  rfl

theorem reads_of_mem_leaves {f : Formula} (h : g.content? a = some (.formula f))
    (hb : .cell b ∈ f.leaves) : g.Reads a b := by
  rw [Reads, reads_eq_of_formula h]
  exact Formula.cover_reads_iff.2 (.inl hb)

/-- A cell that consists of a reference to itself lies on a cycle. -/
theorem onCycle_of_ref (h : g.content? a = some (.formula (.ref a))) : g.OnCycle a :=
  .single (reads_of_mem_leaves h (by simp [Formula.leaves]))

/-! ## Settled cells -/

/-- The value of a cell with the given formula: what the formula evaluates to, or the error that
evaluating it ends with. -/
def outcome (g : Grid) (lang : Language) (f : Formula) : CellValue :=
  match evaluate lang g.reader f with
  | .ok v => v
  | .error (.formula e) => .error e.code
  | .error _ => .error .failure

/-- The value that the content of a cell calls for. -/
def computed (g : Grid) (lang : Language) (a : Address) : CellValue :=
  match g.content? a with
  | none => .empty
  | some (.literal v) => v
  | some (.formula f) => g.outcome lang f

/-- What a cell holds is no formula, or one whose functions keep to their arguments. -/
def KeepsToArguments (g : Grid) (lang : Language) (a : Address) : Prop :=
  ∀ f, g.content? a = some (.formula f) → f.KeepsToArguments lang.toLibrary

theorem keepsToArguments (h : lang.KeepsToArguments) (g : Grid) (a : Address) :
    g.KeepsToArguments lang a :=
  fun f _ => h.formula f

theorem keepsToArguments_congr (h : g.content? a = g'.content? a) :
    g.KeepsToArguments lang a ↔ g'.KeepsToArguments lang a := by
  rw [KeepsToArguments, KeepsToArguments, h]

/-- A cell holds what its content calls for, or the cycle error if it lies on a cycle. -/
@[mk_iff]
structure Settled (g : Grid) (lang : Language) (a : Address) : Prop where
  cycle : g.OnCycle a → g.value a = .error .cycle
  computed : ¬ g.OnCycle a → g.KeepsToArguments lang a → g.value a = g.computed lang a

theorem computed_congr (hkeeps : g.KeepsToArguments lang a)
    (hcontent : g.content? a = g'.content? a)
    (hmem : ∀ b, g.Reads a b → (b ∈ g.cells ↔ b ∈ g'.cells))
    (hvalue : ∀ b, g.Reads a b → g.value b = g'.value b) :
    g.computed lang a = g'.computed lang a := by
  unfold computed
  rw [← hcontent]
  split
  · rfl
  · rfl
  · next f hf =>
    have hreads := reads_eq_of_formula hf
    have heval : evaluate lang g.reader f = evaluate lang g'.reader f :=
      evaluate_congr (hkeeps f hf) (fun b hb => hmem b (by rwa [Reads, hreads]))
        fun b hb => hvalue b (by rwa [Reads, hreads])
    rw [outcome, outcome, heval]

theorem Paired.settled_of_not_mem (hg : g.Paired) (ha : a ∉ g.cells) : g.Settled lang a := by
  refine ⟨fun hcycle => (ha (hg.mem_of_onCycle hcycle)).elim, fun _ _ => ?_⟩
  rw [value_eq_empty ha, computed, hg.content?_eq_none ha]

theorem displayable_outcome (f : Formula) : (g.outcome lang f).Displayable := by
  unfold outcome
  split
  · next h => exact displayable_of_evaluate h
  · exact CellValue.displayable_error _
  · exact CellValue.displayable_error _

theorem reads_congr (h : g.content? a = g'.content? a) : g.reads a = g'.reads a := by
  rw [reads, reads, h]

theorem Reads.congr (h : ∀ a, g.content? a = g'.content? a) : g.Reads = g'.Reads := by
  funext a b
  rw [Reads, Reads, reads_congr (h a)]

theorem OnCycle.congr (h : ∀ a, g.content? a = g'.content? a) : g.OnCycle a ↔ g'.OnCycle a := by
  rw [OnCycle, OnCycle, Reads.congr h]

/-- A cell stays settled as long as its value stays, and the values of what it reads if it lies on
no cycle. -/
theorem Settled.mono (h : g.Settled lang a) (hmem : ∀ b, b ∈ g.cells ↔ b ∈ g'.cells)
    (hcontent : ∀ b, g.content? b = g'.content? b) (ha : g.value a = g'.value a)
    (hreads : g.OnCycle a ∨ ∀ b, g.Reads a b → g.value b = g'.value b) : g'.Settled lang a := by
  refine ⟨fun hcycle => ?_, fun hcycle hkeeps => ?_⟩
  · rw [← ha, h.cycle ((OnCycle.congr hcontent).2 hcycle)]
  · have hcycle : ¬ g.OnCycle a := fun hcycle' => hcycle ((OnCycle.congr hcontent).1 hcycle')
    have hkeeps : g.KeepsToArguments lang a := (keepsToArguments_congr (hcontent a)).2 hkeeps
    rw [← ha, h.computed hcycle hkeeps]
    exact computed_congr hkeeps (hcontent a) (fun b _ => hmem b) (hreads.resolve_left hcycle)

/-- An empty cell stays empty, which is what its value is meant to be. -/
theorem Paired.value_setValue_self (hg : g.Paired) {v : CellValue}
    (h : ¬ g.OnCycle a → v = g.computed lang a) : (g.setValue a v).value a = v := by
  rw [value_setValue]
  by_cases ha : a ∈ g.cells
  · rw [if_pos ⟨rfl, ha⟩]
  · rw [if_neg fun hself => ha hself.2, h fun hcycle => ha (hg.mem_of_onCycle hcycle),
      value_eq_empty ha, computed, hg.content?_eq_none ha]

theorem Paired.settled_setValue (hg : g.Paired) {v : CellValue}
    (hcycle : g.OnCycle a → v = .error .cycle)
    (hcomputed : ¬ g.OnCycle a → v = g.computed lang a) : (g.setValue a v).Settled lang a := by
  have hcontent (b : Address) : g.content? b = (g.setValue a v).content? b :=
    (content?_setValue v).symm
  refine ⟨fun h => ?_, fun h hkeeps => ?_⟩
  · rw [hg.value_setValue_self hcomputed, hcycle ((OnCycle.congr hcontent).2 h)]
  · have h : ¬ g.OnCycle a := fun h' => h ((OnCycle.congr hcontent).1 h')
    have hkeeps : g.KeepsToArguments lang a := (keepsToArguments_congr (hcontent a)).2 hkeeps
    rw [hg.value_setValue_self hcomputed]
    refine (hcomputed h).trans
      (computed_congr hkeeps (hcontent a) (fun b _ => (mem_change _).symm) fun b hread => ?_)
    have hb : b ≠ a := by
      rintro rfl
      exact h (.single hread)
    rw [value_setValue, if_neg fun hba => hb hba.1]

section Congr

variable {P : Address → Prop}

/-- Reading does not leave a set that is closed under it. -/
theorem of_reflTransGen_reads (hclosed : ∀ x y, P x → g.Reads x y → P y) (ha : P a)
    (hreach : ReflTransGen g.Reads a b) : P b := by
  induction hreach with
  | refl => exact ha
  | tail _ hstep ih => exact hclosed _ _ ih hstep

theorem transGen_reads_congr (hclosed : ∀ x y, P x → g.Reads x y → P y)
    (hcontent : ∀ x, P x → g.content? x = g'.content? x) (ha : P a) :
    TransGen g.Reads a b ↔ TransGen g'.Reads a b := by
  have hreads {x y : Address} (hx : P x) : g.Reads x y ↔ g'.Reads x y := by
    rw [Reads, Reads, reads_congr (hcontent x hx)]
  constructor
  · intro h
    induction h with
    | single hstep => exact .single ((hreads ha).1 hstep)
    | tail hfirst hstep ih =>
      exact ih.tail ((hreads (of_reflTransGen_reads hclosed ha hfirst.to_reflTransGen)).1 hstep)
  · intro h
    have hclosed' : ∀ x y, P x → g'.Reads x y → P y :=
      fun x y hx hstep => hclosed x y hx ((hreads hx).2 hstep)
    induction h with
    | single hstep => exact .single ((hreads ha).2 hstep)
    | tail hfirst hstep ih =>
      exact ih.tail ((hreads (of_reflTransGen_reads hclosed' ha hfirst.to_reflTransGen)).2 hstep)

theorem onCycle_congr (hclosed : ∀ x y, P x → g.Reads x y → P y)
    (hcontent : ∀ x, P x → g.content? x = g'.content? x) (ha : P a) :
    g.OnCycle a ↔ g'.OnCycle a :=
  transGen_reads_congr hclosed hcontent ha

/-- Grids that agree on everything that can be reached by reading settle a cell alike. -/
theorem settled_congr (hclosed : ∀ x y, P x → g.Reads x y → P y)
    (hmem : ∀ x, P x → (x ∈ g.cells ↔ x ∈ g'.cells))
    (hcontent : ∀ x, P x → g.content? x = g'.content? x)
    (hvalue : ∀ x, P x → g.value x = g'.value x) (ha : P a) :
    g.Settled lang a ↔ g'.Settled lang a := by
  have hcycle := onCycle_congr hclosed hcontent ha
  have hkeeps : g.KeepsToArguments lang a ↔ g'.KeepsToArguments lang a :=
    keepsToArguments_congr (hcontent a ha)
  have hcomputed (h : g.KeepsToArguments lang a) : g.computed lang a = g'.computed lang a :=
    computed_congr h (hcontent a ha) (fun b hb => hmem b (hclosed a b ha hb))
      fun b hb => hvalue b (hclosed a b ha hb)
  rw [settled_iff, settled_iff, hcycle, hvalue a ha, ← hkeeps]
  refine and_congr_right fun _ => forall_congr' fun _ => forall_congr' fun h => ?_
  rw [hcomputed h]

end Congr

end Grid

end Spreadsheet
