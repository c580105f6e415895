import Spreadsheet.Proofs.Library.Calls
import Spreadsheet.Proofs.Sheet.Reload

/-!
# Nothing is lost in a snapshot

Saving a sheet and making it again from the snapshot gives the sheet with its texts, styles,
contents, values and graph, and saving a sheet that was made from a snapshot gives the snapshot back
but for blank entries and the case of its keys.
-/

namespace Spreadsheet

namespace Sheet

/-- A sheet is made again from its snapshot, if the lazy functions keep to their arguments as the
standard ones do, and a snapshot is taken again from its sheet, but for blank entries and the case
of its keys. -/
theorem round_trip (lang : Language) :
    (lang.KeepsToArguments → ∀ s, Reached lang s → ofSnapshot lang s.snapshot = .ok s) ∧
      ∀ d u, ofSnapshot lang d = .ok u →
        (d.cells.map fun entry => Address.decode entry.1).Nodup →
          u.snapshot.rows = d.rows ∧ u.snapshot.columns = d.columns ∧
            u.snapshot.cells.Perm d.filled := by
  refine ⟨fun hkeeps s h => ofSnapshot_snapshot hkeeps h, fun d u h hkeys => ?_⟩
  obtain ⟨cells, hloaded⟩ := loaded_of_ofSnapshot h
  exact ⟨hloaded.rows, hloaded.columns, perm_cells_ofSnapshot h hkeys⟩

/-- A snapshot with a key in lower case and a blank entry. -/
def untidy : Snapshot :=
  ⟨1, 2, [("a1", ⟨"x", .plain⟩), ("b1", ⟨" ", .plain⟩)]⟩

theorem addressed_untidy :
    untidy.addressed = .ok [(⟨0, 0⟩, ⟨"x", .plain⟩), (⟨0, 1⟩, ⟨" ", .plain⟩)] :=
  rfl

theorem round_trip_untidy : (Language.standard .usual).KeepsToArguments ∧
    ∃ u, ofSnapshot (.standard .usual) untidy = .ok u ∧
      u.snapshot = ⟨1, 2, [("A1", ⟨"x", .plain⟩)]⟩ ∧
        ofSnapshot (.standard .usual) u.snapshot = .ok u := by
  have hkeeps : (Language.standard .usual).KeepsToArguments :=
    Library.isStandard_standard.keepsToArguments
  have haccepts : ∀ cell ∈ [((⟨0, 0⟩, ⟨"x", .plain⟩) : Address × StoredCell),
      (⟨0, 1⟩, ⟨" ", .plain⟩)], (Language.standard .usual).Accepts (some cell.2.raw) := by
    refine List.forall_mem_cons.2 ⟨fun t ht => ?_, List.forall_mem_cons.2 ⟨fun t ht => ?_, by simp⟩⟩
    · have hheld : heldText (some "x") = some ("x" : Text) := by decide
      rw [hheld] at ht
      cases ht
      exact ⟨_, rfl⟩
    · have hheld : heldText (some " ") = none := by decide
      rw [hheld] at ht
      cases ht
  obtain ⟨u, hu, -⟩ := ofSnapshot_eq_of_accepts addressed_untidy (by decide) haccepts
  obtain ⟨hagain, hsaved⟩ := round_trip (.standard .usual)
  obtain ⟨hrows, hcolumns, hcells⟩ := hsaved untidy u hu (by decide)
  have hfilled : untidy.filled = [(("A1" : Text), ⟨"x", .plain⟩)] := by decide
  rw [hfilled, List.perm_singleton] at hcells
  refine ⟨hkeeps, u, hu, ?_, hagain hkeeps u (reached_of_ofSnapshot hu)⟩
  rw [← hcells]
  exact congrArg₂ (Snapshot.mk · · u.snapshot.cells) hrows hcolumns

end Sheet

end Spreadsheet
