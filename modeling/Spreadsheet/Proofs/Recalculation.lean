import Spreadsheet.Proofs.Library.Calls
import Spreadsheet.Proofs.Sheet.Reload
import Spreadsheet.Proofs.Synchrony

/-!
# A full recomputation repairs a sheet

A batch that fails midway leaves cells without values, and readers of cells that are gone. One full
recomputation brings such a sheet up to date: no matter what values were stored, it ends as a sheet
that was made anew from the same texts, and to recompute it again changes nothing. This needs that
the lazy functions keep to their arguments, as the standard ones do.
-/

namespace Spreadsheet

namespace Sheet

variable {lang : Language} {s : Sheet}

/-- A full recomputation of a reachable sheet changes nothing but values. If the lazy functions keep
to their arguments, it gives the sheet that is made from the snapshot, with the values of every
sheet that was reached with the same texts, and a second one changes nothing and reports nothing. -/
theorem recalculate_repairs (h : Reachable lang s) :
    ∃ u changed, s.recalculate = ⟨u, .ok changed⟩ ∧ s.Revalued u ∧
      (lang.KeepsToArguments →
        ofSnapshot lang s.snapshot = .ok u ∧
          (∀ t, Reached lang t → (∀ a, t.grid.raw? a = s.grid.raw? a) →
            ∀ a, u.grid.value a = t.grid.value a) ∧
          u.recalculate = ⟨u, .ok []⟩) := by
  obtain ⟨hsync, rfl⟩ := h.inSync
  obtain ⟨u, changed, hu, hrevalued, hupToDate⟩ := upToDate_of_recalculate hsync
  refine ⟨u, changed, hu, hrevalued, fun hkeeps =>
    ⟨hrevalued.ofSnapshot_eq hkeeps hsync h.bounded hupToDate, fun t ht hraw => ?_,
      hupToDate.recalculate_eq (hrevalued.language ▸ hkeeps)⟩⟩
  refine ht.upToDate.value_eq_of_raw?_eq (ht.reachable.inSync.2 ▸ hkeeps) hupToDate ?_ ?_
  · rw [hrevalued.language, ht.reachable.inSync.2]
  · funext a
    rw [hrevalued.raw?_eq, hraw]

/-- The batch has failed before anything was computed, so the cell that reads itself has no value;
the recomputation finds the cycle. -/
theorem recalculate_halfWritten : (Language.standard .usual).KeepsToArguments ∧
    ∃ u changed, halfWritten.recalculate = ⟨u, .ok changed⟩ ∧
      u.grid.value ⟨0, 0⟩ = .error .cycle ∧ u.recalculate = ⟨u, .ok []⟩ := by
  have hkeeps : (Language.standard .usual).KeepsToArguments :=
    Library.isStandard_standard.keepsToArguments
  obtain ⟨u, changed, hu, hrevalued, hrepairs⟩ := recalculate_repairs reachable_halfWritten
  obtain ⟨hmade, -, hagain⟩ := hrepairs hkeeps
  refine ⟨hkeeps, u, changed, hu, ?_, hagain⟩
  have hread := reachable_halfWritten.inSync.1.inStep.read_eq _ _ setCells_halfReadable.2
  obtain ⟨-, c, hread, hcontent⟩ := hread
  rw [reachable_halfWritten.inSync.2, read_refFirst, Except.ok.injEq] at hread
  subst hread
  rw [← hrevalued.content?_eq] at hcontent
  exact ((reached_of_ofSnapshot hmade).settled _).cycle (Grid.onCycle_of_ref hcontent)

end Sheet

end Spreadsheet
