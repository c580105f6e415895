import Spreadsheet.Proofs.Sheet.Batch
import Spreadsheet.Proofs.Sheet.Recompute

/-!
# What an operation does to a sheet

`Updated` says what a batch of edits or a full recomputation has done to a sheet in sync. Every cell
that is affected by the roots of the operation is settled, every other cell is as it was, and the
report lists, in the order of the visits, the cells that display something else than before. Both
kinds of operation come down to a recomputation of a sheet into which texts have been written
(`recompute_eq`).
-/

namespace Spreadsheet

open Std (ExtTreeMap)

namespace Sheet

variable {s u : Sheet} {roots changed : List Address}
  {edits : List (Address × Option Text)}

/-- What an operation has done to a sheet. -/
structure Updated (s : Sheet) (roots : List Address) (u : Sheet) (changed : List Address) :
    Prop where
  inSync : u.InSync
  language : u.language = s.language
  rows : u.rows = s.rows
  columns : u.columns = s.columns
  pair?_eq : ∀ a, a ∉ u.graph.affected roots → u.grid.pair? a = s.grid.pair? a
  settled : ∀ a ∈ u.graph.affected roots, u.grid.Settled u.language a
  changed_eq : changed =
    (u.graph.visits roots).filter fun a => (u.grid.value a).shown ≠ (s.grid.value a).shown

/-- What has been noted of a cell, or is still shown by it, is what it displayed before the batch. -/
theorem Entered.shownBefore_eq {w : Written} (h : s.Entered edits w) (a : Address) :
    Progress.shownBefore w.before w.sheet.grid a = (s.grid.value a).shown := by
  rw [Progress.shownBefore]
  by_cases ha : a ∈ w.before
  · rw [h.before_eq a ha]
    rfl
  · rw [ExtTreeMap.getElem?_eq_none ha, Grid.value_congr (h.pair?_eq a ha)]
    rfl

theorem recompute_eq {w : Written} (h : s.Entered edits w)
    (hroots : ∀ a, a ∈ edits.map Prod.fst → a ∈ roots) :
    ∃ u changed, w.sheet.recompute roots w.before = ⟨u, .ok changed⟩ ∧
      s.Updated roots u changed ∧ w.sheet.Revalued u := by
  obtain ⟨q, hq, hrun⟩ := Progress.run_eq w.before _ (p := ⟨w.sheet, []⟩) h.inSync
    (DependencyGraph.scheduled_affected h.inSync.valid roots)
  have hgraph : q.sheet.graph = w.sheet.graph := hrun.revalued.graph
  have hmem (a : Address) :
      a ∈ (w.sheet.graph.schedule (w.sheet.graph.affected roots)).flatMap Progress.inOrder ↔
        a ∈ w.sheet.graph.affected roots :=
    DependencyGraph.mem_visits_iff
  have hnote (a : Address) (ha : a ∉ w.sheet.graph.affected roots) : a ∉ w.before := by
    intro hbefore
    refine ha ((DependencyGraph.mem_affected_iff h.inSync.valid).2 ⟨a, hroots a ?_, .refl⟩)
    exact (h.mem_before_iff a).1 hbefore
  refine ⟨q.sheet, q.changed, ?_, ⟨hrun.inSync, ?_, ?_, ?_, ?_, ?_, ?_⟩, hrun.revalued⟩
  · show w.sheet.recompute roots w.before = ⟨q.sheet, .ok q.changed⟩
    rw [recompute, hq]
  · exact hrun.revalued.language.trans h.language
  · exact hrun.revalued.rows.trans h.rows
  · exact hrun.revalued.columns.trans h.columns
  · intro a ha
    show q.sheet.grid.pair? a = s.grid.pair? a
    rw [hgraph] at ha
    have hvalue := hrun.value_of_not_mem a fun hvisit => ha ((hmem a).1 hvisit)
    exact (hrun.revalued.pair?_eq hvalue).trans (h.pair?_eq a (hnote a ha))
  · intro a ha
    show q.sheet.grid.Settled q.sheet.language a
    exact hrun.settled a ((hmem a).2 (hgraph ▸ ha))
  · rw [hrun.changed, List.nil_append, DependencyGraph.visits, hgraph]
    refine List.filter_congr fun a _ => ?_
    rw [h.shownBefore_eq]

/-- A full recomputation succeeds and keeps all texts. -/
theorem recalculate_eq (h : s.InSync) :
    ∃ u changed, s.recalculate = ⟨u, .ok changed⟩ ∧ s.Updated s.grid.cells.keys u changed ∧
      s.Revalued u := by
  have hroots (a : Address) (ha : a ∈ ([] : List (Address × Option Text)).map Prod.fst) :
      a ∈ s.grid.cells.keys := by
    simp at ha
  obtain ⟨u, changed, hu, hupdated, hrevalued⟩ := recompute_eq (.nil h) hroots
  exact ⟨u, changed, hu, hupdated, hrevalued⟩

/-- A batch of texts that can all be read succeeds, and the cells hold the texts written last. -/
theorem applyEdits_eq (h : s.InSync) (hedits : ∀ edit ∈ edits, s.language.Accepts edit.2) :
    ∃ u changed, s.applyEdits edits = ⟨u, .ok changed⟩ ∧
      s.Updated (edits.map Prod.fst) u changed ∧
        u.grid.raw? = overwrite s.grid.raw? edits := by
  obtain ⟨w, hw, hentered⟩ := Entered.writeAll_eq hedits (.nil h)
  rw [List.nil_append] at hentered
  have hkeys (a : Address) : a ∈ w.before.keys ↔ a ∈ edits.map Prod.fst := by
    rw [ExtTreeMap.mem_keys, hentered.mem_before_iff]
  obtain ⟨u, changed, hu, hupdated, hrevalued⟩ :=
    recompute_eq hentered fun a ha => (hkeys a).2 ha
  refine ⟨u, changed, by rw [applyEdits, hw]; exact hu, ?_, ?_⟩
  · have haffected := DependencyGraph.affected_congr (g := u.graph) hkeys
    obtain ⟨hsync, hlang, hrows, hcolumns, hentry, hsettled, hchanged⟩ := hupdated
    rw [DependencyGraph.visits] at hchanged
    rw [haffected] at hentry hsettled hchanged
    exact ⟨hsync, hlang, hrows, hcolumns, hentry, hsettled, hchanged⟩
  · funext a
    rw [hrevalued.raw?_eq, hentered.raw?_eq]

/-- The first text that cannot be read ends a batch: what stands before it is written, and nothing
is computed. -/
theorem applyEdits_eq_of_not (h : s.InSync) {raw : Option Text} (a : Address)
    (later : List (Address × Option Text)) (hedits : ∀ edit ∈ edits, s.language.Accepts edit.2)
    (hraw : ¬ s.language.Accepts raw) :
    ∃ w, Written.writeAll ⟨s, ∅⟩ edits = (w, none) ∧ s.Entered edits w ∧
      s.applyEdits (edits ++ (a, raw) :: later) = ⟨w.sheet, .error .numeralTooLong⟩ := by
  obtain ⟨w, before, hw, hentered, hfail⟩ := writeAll_eq_of_not h a later hedits hraw
  exact ⟨w, hw, hentered, by rw [applyEdits, hfail]⟩

/-- The texts of a list can all be read, or there is a first one that cannot. -/
theorem accepts_or_exists (lang : Language) (edits : List (Address × Option Text)) :
    (∀ edit ∈ edits, lang.Accepts edit.2) ∨ ∃ accepted a raw later,
      edits = accepted ++ (a, raw) :: later ∧ (∀ edit ∈ accepted, lang.Accepts edit.2) ∧
        ¬ lang.Accepts raw := by
  induction edits with
  | nil => exact .inl (by simp)
  | cons edit edits ih =>
    by_cases hedit : lang.Accepts edit.2
    · rcases ih with hall | ⟨accepted, a, raw, later, rfl, haccepted, hraw⟩
      · exact .inl (List.forall_mem_cons.2 ⟨hedit, hall⟩)
      · refine .inr ⟨edit :: accepted, a, raw, later, rfl, ?_, hraw⟩
        exact List.forall_mem_cons.2 ⟨hedit, haccepted⟩
    · exact .inr ⟨[], edit.1, edit.2, edits, rfl, by simp, hedit⟩

/-! ## Coherence -/

/-- An operation on a sheet of settled cells leaves every cell settled: what is not affected reads
nothing that is, and its cycles are those it had before. -/
theorem Updated.settled_all (h : s.Updated roots u changed)
    (hs : ∀ a, s.grid.Settled s.language a) (a : Address) : u.grid.Settled u.language a := by
  by_cases ha : a ∈ u.graph.affected roots
  · exact h.settled a ha
  · rw [h.language]
    refine (Grid.settled_congr (P := fun x => x ∉ u.graph.affected roots) ?_ ?_ ?_ ?_ ha).2 (hs a)
    · intro x y hx hread
      show y ∉ u.graph.affected roots
      intro hy
      rw [← h.inSync.reads_eq] at hread
      exact hx (DependencyGraph.mem_affected_of_reads h.inSync.valid hy hread)
    · intro x hx
      show x ∈ u.grid.cells ↔ x ∈ s.grid.cells
      rw [← Grid.isSome_raw?_iff, ← Grid.isSome_raw?_iff, Grid.raw?_congr (h.pair?_eq x hx)]
    · intro x hx
      exact Grid.content?_congr (h.pair?_eq x hx)
    · intro x hx
      exact Grid.value_congr (h.pair?_eq x hx)

end Sheet

end Spreadsheet
