import Spreadsheet.Proofs.Sheet.Kept
import Spreadsheet.Proofs.Solution

/-!
# Sheets that are up to date

A sheet is `UpToDate` if it is in sync and all of its cells are settled. Operations that succeed
keep a sheet up to date, and a full recomputation makes any sheet in sync so
(`upToDate_of_recalculate`), whatever values it starts from. If the lazy functions keep to their
arguments, what is kept of the cells determines such a sheet (`UpToDate.eq_of_stored?`), so to
compute it anew changes nothing (`UpToDate.recalculate_eq`).
-/

namespace Spreadsheet

open Std (ExtTreeMap)

/-- A grid is determined by what is kept of its cells, what they stand for and their values. -/
theorem Grid.eq_of_stored? {g g' : Grid} (hstored : ∀ a, g.stored? a = g'.stored? a)
    (hcontent : ∀ a, g.content? a = g'.content? a) (hvalue : ∀ a, g.value a = g'.value a) :
    g = g' := by
  refine Grid.ext (ExtTreeMap.ext_getElem? fun {a} => ?_)
    (ExtTreeMap.ext_getElem? fun {a} => hcontent a)
  have hstored := hstored a
  have hvalue := hvalue a
  unfold stored? at hstored
  unfold value at hvalue
  rcases hc : g.cells[a]? with _ | c <;> rcases hd : g'.cells[a]? with _ | d
  · rfl
  · simp [hc, hd] at hstored
  · simp [hc, hd] at hstored
  · simp only [hc, hd, Option.map_some, Option.some.injEq, StoredCell.mk.injEq] at *
    cases c
    cases d
    simp_all

namespace Sheet

variable {lang : Language} {s u : Sheet} {roots changed : List Address}

/-- A sheet in sync all of whose cells are settled. -/
structure UpToDate (s : Sheet) : Prop where
  inSync : s.InSync
  settled : ∀ a, s.grid.Settled s.language a

theorem Reached.upToDate (h : Reached lang s) : s.UpToDate := by
  obtain ⟨hsync, rfl⟩ := h.reachable.inSync
  exact ⟨hsync, h.settled⟩

theorem Updated.upToDate (h : s.Updated roots u changed) (hs : s.UpToDate) : u.UpToDate :=
  ⟨h.inSync, h.settled_all hs.settled⟩

namespace UpToDate

theorem value_eq_of_raw?_eq (hkeeps : s.language.KeepsToArguments) (hs : s.UpToDate)
    (hu : u.UpToDate) (hlang : u.language = s.language) (hraw : u.grid.raw? = s.grid.raw?)
    (a : Address) : u.grid.value a = s.grid.value a := by
  have hcontent (a : Address) : u.grid.content? a = s.grid.content? a :=
    hu.inSync.content?_congr hs.inSync hlang (congrFun hraw a)
  have hmem (a : Address) : a ∈ u.grid.cells ↔ a ∈ s.grid.cells :=
    hu.inSync.grid.paired.mem_congr hs.inSync.grid.paired (hcontent a)
  exact Grid.value_eq_of_settled hkeeps hmem hcontent (hlang ▸ hu.settled) hs.settled a

/-- What is kept of its cells determines a sheet that is up to date. -/
theorem eq_of_stored? (hkeeps : s.language.KeepsToArguments) (hs : s.UpToDate) (hu : u.UpToDate)
    (hlang : u.language = s.language) (hrows : u.rows = s.rows) (hcolumns : u.columns = s.columns)
    (hstored : u.grid.stored? = s.grid.stored?) : u = s := by
  have hraw : u.grid.raw? = s.grid.raw? := by
    funext a
    have hmap := congrArg (Option.map StoredCell.raw) (congrFun hstored a)
    rwa [Grid.stored?, Grid.stored?, Option.map_map, Option.map_map] at hmap
  have hgrid : u.grid = s.grid := Grid.eq_of_stored? (congrFun hstored)
    (fun a => hu.inSync.content?_congr hs.inSync hlang (congrFun hraw a))
    (hs.value_eq_of_raw?_eq hkeeps hu hlang hraw)
  have hgraph : u.graph = s.graph := hu.inSync.graph_eq hs.inSync hlang (congrFun hraw)
  cases u
  cases s
  simp only [Sheet.mk.injEq]
  exact ⟨hlang, hrows, hcolumns, hgrid, hgraph⟩

/-- To compute a sheet anew that is up to date changes nothing. -/
theorem recalculate_eq (hkeeps : s.language.KeepsToArguments) (h : s.UpToDate) :
    s.recalculate = ⟨s, .ok []⟩ := by
  obtain ⟨u, changed, hu, hupdated, hrevalued⟩ := Sheet.recalculate_eq h.inSync
  have heq : u = s := h.eq_of_stored? hkeeps (hupdated.upToDate h) hupdated.language
    hupdated.rows hupdated.columns hrevalued.stored?_eq
  subst heq
  have hchanged : changed = [] := by
    rw [hupdated.changed_eq, List.filter_eq_nil_iff]
    simp
  rw [hu, hchanged]

end UpToDate

/-- A full recomputation brings every sheet in sync up to date. Its roots are all populated cells,
so only empty ones are left out. -/
theorem upToDate_of_recalculate (h : s.InSync) :
    ∃ u changed, s.recalculate = ⟨u, .ok changed⟩ ∧ s.Revalued u ∧ u.UpToDate := by
  obtain ⟨u, changed, hu, hupdated, hrevalued⟩ := recalculate_eq h
  refine ⟨u, changed, hu, hrevalued, hupdated.inSync, fun a => ?_⟩
  by_cases ha : a ∈ u.grid.cells
  · have hkey : a ∈ s.grid.cells.keys := ExtTreeMap.mem_keys.2 (hrevalued.mem_iff.1 ha)
    exact hupdated.settled a
      ((DependencyGraph.mem_affected_iff hupdated.inSync.valid).2 ⟨a, hkey, .refl⟩)
  · exact hupdated.inSync.grid.paired.settled_of_not_mem ha

end Sheet

end Spreadsheet
